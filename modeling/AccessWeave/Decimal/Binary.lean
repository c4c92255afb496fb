import AccessWeave.Decimal.Power

/-!
Binary floating point numbers as bit patterns. A finite number is a significand times a
power of two, and every rational number rounds to the nearest of them, a tie going to the
even significand. Sign and magnitude are kept apart: a magnitude is a pattern without its
sign bit, so magnitudes of one format are ordered as natural numbers.
-/

namespace AccessWeave.Decimal

structure BinaryFormat where
  fractionBits : Nat
  exponentBits : Nat
  deriving DecidableEq, Repr

def binary32 : BinaryFormat := ⟨23, 8⟩

def binary64 : BinaryFormat := ⟨52, 11⟩

/-- What the fields below the sign bit mean. -/
inductive Magnitude
  | finite (significand : Nat) (exponent : Int)
  | infinite
  | notANumber
  deriving DecidableEq, Repr

namespace BinaryFormat

/-- The exponent of the smallest positive number, which is also that of every number
without a leading one bit. -/
def leastExponent (format : BinaryFormat) : Int :=
  2 - Int.ofNat (twoTo (format.exponentBits - 1)) - format.fractionBits

def infinityPattern (format : BinaryFormat) : Nat :=
  (twoTo format.exponentBits - 1) * twoTo format.fractionBits

def signPattern (format : BinaryFormat) : Nat :=
  twoTo (format.exponentBits + format.fractionBits)

def isNegative (format : BinaryFormat) (pattern : Nat) : Bool :=
  format.signPattern ≤ pattern

def withSign (format : BinaryFormat) (negative : Bool) (magnitude : Nat) : Nat :=
  if negative then format.signPattern + magnitude else magnitude

def magnitude (format : BinaryFormat) (pattern : Nat) : Magnitude :=
  let fraction := pattern % twoTo format.fractionBits
  let field := pattern / twoTo format.fractionBits % twoTo format.exponentBits
  if field = twoTo format.exponentBits - 1 then
    if fraction = 0 then .infinite else .notANumber
  else if field = 0 then .finite fraction format.leastExponent
  else .finite (twoTo format.fractionBits + fraction) (format.leastExponent + field - 1)

end BinaryFormat

/-- The quotient rounded to the nearest natural number, a tie to the even one. -/
def roundHalfEven (numerator denominator : Nat) : Nat :=
  let floor := numerator / denominator
  let twice := 2 * (numerator % denominator)
  if twice < denominator then floor
  else if denominator < twice then floor + 1
  else if floor % 2 = 0 then floor else floor + 1

def shiftRatio (numerator denominator : Nat) (exponent : Int) : Nat × Nat :=
  (numerator * twoTo (-exponent).toNat, denominator * twoTo exponent.toNat)

namespace BinaryFormat

/-- The exponent at which the significand of a positive quotient fills its field, or the
least exponent when the quotient is too small for that. -/
def exponentFor (format : BinaryFormat) (numerator denominator : Nat) : Int :=
  let guess : Int := numerator.log2 - denominator.log2 - format.fractionBits
  let (top, bottom) := shiftRatio numerator denominator guess
  let exact := if top / bottom < twoTo format.fractionBits then guess - 1 else guess
  max exact format.leastExponent

/-- The magnitude nearest to a quotient, infinite when the quotient lies beyond the largest
finite number by half a unit or more. -/
def nearest (format : BinaryFormat) (numerator denominator : Nat) : Nat :=
  if numerator = 0 then 0
  else
    let exponent := format.exponentFor numerator denominator
    let (top, bottom) := shiftRatio numerator denominator exponent
    let pattern :=
      (exponent - format.leastExponent).toNat * twoTo format.fractionBits
        + roundHalfEven top bottom
    min pattern format.infinityPattern

def convert (source target : BinaryFormat) (pattern : Nat) : Nat :=
  match source.magnitude pattern with
  | .finite significand exponent =>
      target.nearest (significand * twoTo exponent.toNat) (twoTo (-exponent).toNat)
  | .infinite => target.infinityPattern
  | .notANumber => target.infinityPattern + 1

def product (format : BinaryFormat) (left right : Nat) : Nat :=
  match format.magnitude left, format.magnitude right with
  | .finite a p, .finite b q =>
      format.nearest (a * b * twoTo (p + q).toNat) (twoTo (-(p + q)).toNat)
  | _, _ => format.infinityPattern

def quotient (format : BinaryFormat) (left right : Nat) : Nat :=
  match format.magnitude left, format.magnitude right with
  | .finite a p, .finite b q =>
      format.nearest (a * twoTo (p - q).toNat) (b * twoTo (q - p).toNat)
  | _, _ => format.infinityPattern

end BinaryFormat

end AccessWeave.Decimal
