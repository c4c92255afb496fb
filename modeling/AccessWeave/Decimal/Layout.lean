import AccessWeave.Decimal.Shortest

/-!
Digits around the decimal point. The digits of a scaled number are laid out positionally,
with zeros in between where the number does not reach the point.
-/

namespace AccessWeave.Decimal

/-- The digits before the point, at least one, and the digits after it. -/
def Scaled.positional (scaled : Scaled) : List Digit × List Digit :=
  if scaled.place ≤ 0 then
    ([zeroDigit], List.replicate (-scaled.place).toNat zeroDigit ++ scaled.digits)
  else
    let places := scaled.place.toNat
    (scaled.digits.take places ++ List.replicate (places - scaled.digits.length) zeroDigit,
      scaled.digits.drop places)

def scaledOf (format : BinaryFormat) (tie : Tie) (significand : Nat) (exponent : Int) :
    Scaled :=
  if significand = 0 then ⟨[], 0⟩ else shortest format tie significand exponent

def digitText (digits : List Digit) : String := String.ofList (digits.map digitChar)

/-- The number in full, without an exponent, and without a point when it is whole. A tie
between two shortest decimals goes to the larger magnitude. -/
def plainText (format : BinaryFormat) (pattern : Nat) : String :=
  match format.magnitude (pattern % format.signPattern) with
  | .notANumber => "NaN"
  | .infinite => if format.isNegative pattern then "-inf" else "inf"
  | .finite significand exponent =>
      let (whole, fraction) := (scaledOf format .upward significand exponent).positional
      (if format.isNegative pattern then "-" else "") ++ digitText whole
        ++ (if fraction.isEmpty then "" else "." ++ digitText fraction)

end AccessWeave.Decimal
