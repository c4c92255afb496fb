import AccessWeave.Json.Document
import AccessWeave.Json.Escape
import AccessWeave.Json.Number

/-!
Writing a JSON document. Every item and every member has a line of its own, indented by two
spaces for each level around it; an empty array or object stays on one line. The exponent of
a number always shows its sign.
-/

namespace AccessWeave.Json

open Decimal (digitByte)

def newLine (depth : Nat) : List UInt8 := 0x0A :: List.replicate (2 * depth) 0x20

def writeExponent : Option Exponent → List UInt8
  | none => []
  | some exponent =>
      0x65 :: (if exponent.negative then 0x2D else 0x2B) :: exponent.digits.map digitByte

def writeNumber (literal : NumberLiteral) : List UInt8 :=
  (if literal.negative then [0x2D] else [])
    ++ literal.whole.map digitByte
    ++ (if literal.fraction.isEmpty then [] else 0x2E :: literal.fraction.map digitByte)
    ++ writeExponent literal.exponent

def writeString (raw : List UInt8) : List UInt8 := 0x22 :: raw ++ [0x22]

def nullWord : List UInt8 := [0x6E, 0x75, 0x6C, 0x6C]

def trueWord : List UInt8 := [0x74, 0x72, 0x75, 0x65]

def falseWord : List UInt8 := [0x66, 0x61, 0x6C, 0x73, 0x65]

mutual

/-- The document as it appears at the given depth, without the indentation before it. -/
def writeDocument (depth : Nat) : Document → List UInt8
  | .null => nullWord
  | .boolean true => trueWord
  | .boolean false => falseWord
  | .number literal => writeNumber literal
  | .string raw => writeString raw
  | .array [] => [0x5B, 0x5D]
  | .array (item :: items) =>
      [0x5B] ++ newLine (depth + 1) ++ writeDocument (depth + 1) item
        ++ writeItems depth items
  | .object [] => [0x7B, 0x7D]
  | .object ((name, value) :: members) =>
      [0x7B] ++ newLine (depth + 1) ++ writeString name ++ [0x3A, 0x20]
        ++ writeDocument (depth + 1) value ++ writeMembers depth members

/-- The items after the first and the closing bracket. -/
def writeItems (depth : Nat) : List Document → List UInt8
  | [] => newLine depth ++ [0x5D]
  | item :: items =>
      [0x2C] ++ newLine (depth + 1) ++ writeDocument (depth + 1) item
        ++ writeItems depth items

def writeMembers (depth : Nat) : List (List UInt8 × Document) → List UInt8
  | [] => newLine depth ++ [0x7D]
  | (name, value) :: members =>
      [0x2C] ++ newLine (depth + 1) ++ writeString name ++ [0x3A, 0x20]
        ++ writeDocument (depth + 1) value ++ writeMembers depth members

end

def write (document : Document) : List UInt8 := writeDocument 0 document

end AccessWeave.Json
