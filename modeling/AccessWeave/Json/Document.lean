import AccessWeave.Decimal.Digits

/-!
JSON documents as they are written. A document keeps what its text says and nothing that
its text leaves open: a string is the bytes between its quotation marks, escapes included,
and a number is its digits. What a string or a number means is decided by whoever reads the
document, so a part that nobody reads may hold a string or a number that means nothing.
-/

namespace AccessWeave.Json

open Decimal (Digit)

structure Exponent where
  negative : Bool
  digits : List Digit
  deriving DecidableEq, Repr

/-- A number as it is written: no fraction digits means no point. -/
structure NumberLiteral where
  negative : Bool
  whole : List Digit
  fraction : List Digit
  exponent : Option Exponent
  deriving DecidableEq, Repr

inductive Document
  | null
  | boolean (value : Bool)
  | number (literal : NumberLiteral)
  /-- A string by the bytes between its quotation marks. -/
  | string (raw : List UInt8)
  | array (items : List Document)
  /-- An object by its members in the order of the text, repeated names included. -/
  | object (members : List (List UInt8 × Document))
  deriving Repr

mutual

/-- How many arrays and objects enclose the innermost part, the document itself included. -/
def Document.levels : Document → Nat
  | .array items => itemLevels items + 1
  | .object members => memberLevels members + 1
  | _ => 0

def itemLevels : List Document → Nat
  | [] => 0
  | item :: items => max item.levels (itemLevels items)

def memberLevels : List (List UInt8 × Document) → Nat
  | [] => 0
  | (_, value) :: members => max value.levels (memberLevels members)

end

end AccessWeave.Json
