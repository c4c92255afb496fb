/-!
Numbers in base sixteen, with lower case digits.
-/

namespace AccessWeave.Text

def hexDigit (value : Nat) : Char :=
  if value < 10 then Char.ofNat (48 + value) else Char.ofNat (87 + value)

def hexByte (byte : UInt8) : String :=
  String.ofList [hexDigit (byte.toNat / 16), hexDigit (byte.toNat % 16)]

/-- As few digits as the number needs, and one for zero. -/
def hexNumber (value : Nat) : List Char :=
  if value < 16 then [hexDigit value]
  else hexNumber (value / 16) ++ [hexDigit (value % 16)]
  termination_by value

end AccessWeave.Text
