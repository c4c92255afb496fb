import AccessWeave.Text.Bytes

/-!
Texts whose characters stand for bytes, one each. A program that knows nothing of UTF-8 handles
texts in this form: a letter beyond ASCII is as many characters as it has bytes, and bytes that
are no text at all have a form too.
-/

namespace AccessWeave.Text

def octet (byte : UInt8) : Char := Char.ofNat byte.toNat

def octetsOfBytes (bytes : List UInt8) : String := String.ofList (bytes.map octet)

def octets (text : String) : String := octetsOfBytes (toBytes text)

def bytesOfOctets (text : String) : List UInt8 :=
  text.toList.map fun character => UInt8.ofNat character.toNat

/-- The text that the bytes spell. Bytes that spell none are kept one character each. -/
def ofOctets (text : String) : String := (ofBytes (bytesOfOctets text)).getD text

end AccessWeave.Text
