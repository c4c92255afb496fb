/-!
Decimal digits of natural numbers. A number has one canonical list of digits, without
leading zeros, and zero is the single digit zero; folding the digits gives the number back.
-/

namespace AccessWeave.Decimal

abbrev Digit := Fin 10

def zeroDigit : Digit := ⟨0, by decide⟩

def lastDigit (value : Nat) : Digit := ⟨value % 10, Nat.mod_lt _ (by decide)⟩

def digitsOf (value : Nat) : List Digit :=
  if value < 10 then [lastDigit value]
  else digitsOf (value / 10) ++ [lastDigit value]
  termination_by value

/-- The digits of a longer number that continues an earlier one. -/
def appendDigits (value : Nat) (digits : List Digit) : Nat :=
  digits.foldl (fun total digit => total * 10 + digit.val) value

def valueOf (digits : List Digit) : Nat := appendDigits 0 digits

theorem append_digits_append (value : Nat) (left right : List Digit) :
    appendDigits value (left ++ right) = appendDigits (appendDigits value left) right := by
  simp [appendDigits]

theorem value_of_digits_of (value : Nat) : valueOf (digitsOf value) = value := by
  induction value using Nat.strongRecOn with
  | ind value induction =>
      rw [digitsOf]
      split
      · next small =>
          simp [valueOf, appendDigits, lastDigit]
          omega
      · next large =>
          have shorter := induction (value / 10) (by omega)
          unfold valueOf at shorter ⊢
          rw [append_digits_append, shorter]
          simp [appendDigits, lastDigit]
          omega

def digitChar (digit : Digit) : Char := Char.ofNat (48 + digit.val)

def digitByte (digit : Digit) : UInt8 := UInt8.ofNat (48 + digit.val)

def digitOfByte (byte : UInt8) : Option Digit :=
  if inRange : 48 ≤ byte.toNat ∧ byte.toNat < 58 then
    some ⟨byte.toNat - 48, by omega⟩
  else none

theorem digit_of_byte_digit_byte (digit : Digit) :
    digitOfByte (digitByte digit) = some digit := by
  have small := digit.isLt
  have size : (digitByte digit).toNat = 48 + digit.val := by
    simp only [digitByte, UInt8.toNat_ofNat']
    omega
  unfold digitOfByte
  rw [dif_pos (by omega)]
  simp [size]

def digitCount (value : Nat) : Nat := (digitsOf value).length

end AccessWeave.Decimal
