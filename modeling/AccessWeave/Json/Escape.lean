import AccessWeave.Text.Bytes
import AccessWeave.Text.Hex

/-!
Strings inside a JSON text. Writing escapes the quotation mark, the backslash and the
control bytes below the space and leaves every other byte alone, so text outside ASCII stays
as it is. Reading accepts every escape of the format, and joins a pair of surrogate escapes
into the one character that they name; a surrogate escape without its partner names nothing.
-/

namespace AccessWeave.Json

open Text (hexDigit)

def hexDigitByte (value : Nat) : UInt8 := UInt8.ofNat (hexDigit value).toNat

def escapeByte (byte : UInt8) : List UInt8 :=
  if byte = 0x22 then [0x5C, 0x22]
  else if byte = 0x5C then [0x5C, 0x5C]
  else if byte = 0x08 then [0x5C, 0x62]
  else if byte = 0x0C then [0x5C, 0x66]
  else if byte = 0x0A then [0x5C, 0x6E]
  else if byte = 0x0D then [0x5C, 0x72]
  else if byte = 0x09 then [0x5C, 0x74]
  else if byte < 0x20 then
    [0x5C, 0x75, 0x30, 0x30, hexDigitByte (byte.toNat / 16), hexDigitByte (byte.toNat % 16)]
  else [byte]

def escape (bytes : List UInt8) : List UInt8 := bytes.flatMap escapeByte

def hexValue (byte : UInt8) : Option Nat :=
  let code := byte.toNat
  if 48 ≤ code ∧ code ≤ 57 then some (code - 48)
  else if 65 ≤ code ∧ code ≤ 70 then some (code - 55)
  else if 97 ≤ code ∧ code ≤ 102 then some (code - 87)
  else none

def hexQuad (a b c d : UInt8) : Option Nat := do
  let first ← hexValue a
  let second ← hexValue b
  let third ← hexValue c
  let fourth ← hexValue d
  some (((first * 16 + second) * 16 + third) * 16 + fourth)

def letterEscape (letter : UInt8) : Option UInt8 :=
  if letter = 0x22 then some 0x22
  else if letter = 0x5C then some 0x5C
  else if letter = 0x2F then some 0x2F
  else if letter = 0x62 then some 0x08
  else if letter = 0x66 then some 0x0C
  else if letter = 0x6E then some 0x0A
  else if letter = 0x72 then some 0x0D
  else if letter = 0x74 then some 0x09
  else none

def isHighSurrogate (code : Nat) : Bool := 0xD800 ≤ code && code < 0xDC00

def isLowSurrogate (code : Nat) : Bool := 0xDC00 ≤ code && code < 0xE000

def joinSurrogates (high low : Nat) : Nat :=
  0x10000 + (high - 0xD800) * 0x400 + (low - 0xDC00)

def characterBytes (code : Nat) : List UInt8 := Text.toBytes (String.ofList [Char.ofNat code])

def unescape : List UInt8 → Option (List UInt8)
  | [] => some []
  | 0x5C :: 0x75 :: a :: b :: c :: d :: rest => do
      let code ← hexQuad a b c d
      if isLowSurrogate code then none
      else if isHighSurrogate code then
        match rest with
        | 0x5C :: 0x75 :: e :: f :: g :: h :: rest => do
            let low ← hexQuad e f g h
            if isLowSurrogate low then do
              let bytes ← unescape rest
              some (characterBytes (joinSurrogates code low) ++ bytes)
            else none
        | _ => none
      else do
        let bytes ← unescape rest
        some (characterBytes code ++ bytes)
  | 0x5C :: letter :: rest => do
      let byte ← letterEscape letter
      let bytes ← unescape rest
      some (byte :: bytes)
  | byte :: rest =>
      if byte = 0x5C then none
      else do
        let bytes ← unescape rest
        some (byte :: bytes)

def textOfRaw (raw : List UInt8) : Option String := do
  let bytes ← unescape raw
  Text.ofBytes bytes

def rawOfText (text : String) : List UInt8 := escape (Text.toBytes text)

end AccessWeave.Json
