import AccessWeave.Json.Escape
import AccessWeave.Json.Number

/-!
What documents mean to a reader that knows what it expects. A record is an object in which
every expected field occurs at most once and other members are ignored, or an array of all
fields in order. A choice is an object with one member, or a string for a choice without
content. Parts that are ignored are never looked at.
-/

namespace AccessWeave.Json.Document

open Decimal (binary32 binary64)

mutual

def isMeaningful : Document → Bool
  | .number literal => literal.quantity.isSome
  | .string raw => (textOfRaw raw).isSome
  | .array items => areMeaningful items
  | .object members => haveMeaning members
  | _ => true

def areMeaningful : List Document → Bool
  | [] => true
  | item :: items => item.isMeaningful && areMeaningful items

def haveMeaning : List (List UInt8 × Document) → Bool
  | [] => true
  | (name, value) :: members =>
      (textOfRaw name).isSome && value.isMeaningful && haveMeaning members

end

def text? : Document → Option String
  | .string raw => textOfRaw raw
  | _ => none

def integer? (least greatest : Int) : Document → Option Int
  | .number literal =>
      match literal.quantity with
      | some (.integer value) =>
          if least ≤ value ∧ value ≤ greatest then some value else none
      | _ => none
  | _ => none

def natural? (bound : Nat) (document : Document) : Option Nat :=
  (document.integer? 0 (bound - 1)).map Int.toNat

def uint8? (document : Document) : Option UInt8 :=
  (document.natural? UInt8.size).map UInt8.ofNat

def uint16? (document : Document) : Option UInt16 :=
  (document.natural? UInt16.size).map UInt16.ofNat

def uint32? (document : Document) : Option UInt32 :=
  (document.natural? UInt32.size).map UInt32.ofNat

def int32? (document : Document) : Option Int32 :=
  (document.integer? Int32.minValue.toInt Int32.maxValue.toInt).map Int32.ofInt

def int64? (document : Document) : Option Int64 :=
  (document.integer? Int64.minValue.toInt Int64.maxValue.toInt).map Int64.ofInt

def pattern? (format : Decimal.BinaryFormat) : Document → Option Nat
  | .number literal => literal.quantity.map (Quantity.toPattern format)
  | _ => none

def float32? (document : Document) : Option UInt32 :=
  (document.pattern? binary32).map UInt32.ofNat

def float64? (document : Document) : Option UInt64 :=
  (document.pattern? binary64).map UInt64.ofNat

def list? {Value : Type} (read : Document → Option Value) : Document → Option (List Value)
  | .array items => items.mapM read
  | _ => none

def optional? {Value : Type} (read : Document → Option Value) :
    Document → Option (Option Value)
  | .null => some none
  | document => (read document).map some

def named (name : String) (members : List (String × Document)) : List Document :=
  members.filterMap fun (other, value) => if other = name then some value else none

/-- The value of each expected field, when no expected field occurs twice. -/
def fields? (names : List String) : Document → Option (List (Option Document))
  | .array items =>
      if items.length = names.length then some (items.map some) else none
  | .object members => do
      let spelled ← members.mapM fun (raw, value) => do
        let name ← textOfRaw raw
        some (name, value)
      names.mapM fun name =>
        match named name spelled with
        | [] => some none
        | [value] => some (some value)
        | _ => none
  | _ => none

def required? {Value : Type} (read : Document → Option Value) (field : Option Document) :
    Option Value :=
  field.bind read

def absentOr? {Value : Type} (read : Document → Option Value) :
    Option Document → Option (Option Value)
  | none => some none
  | some document => document.optional? read

/-- The name of a choice and its content. -/
def choice? : Document → Option (String × Option Document)
  | .string raw => (textOfRaw raw).map fun name => (name, none)
  | .object [(raw, content)] => (textOfRaw raw).map fun name => (name, some content)
  | _ => none

def word? (document : Document) : Option String :=
  match document.choice? with
  | some (name, none) => some name
  | some (name, some .null) => some name
  | _ => none

def ofText (text : String) : Document := .string (rawOfText text)

def ofInt (value : Int) : Document := .number (NumberLiteral.ofInt value)

def ofOption {Value : Type} (write : Value → Document) : Option Value → Document
  | none => .null
  | some value => write value

def ofList {Value : Type} (write : Value → Document) (values : List Value) : Document :=
  .array (values.map write)

def ofFields (fields : List (String × Document)) : Document :=
  .object (fields.map fun (name, value) => (rawOfText name, value))

end AccessWeave.Json.Document
