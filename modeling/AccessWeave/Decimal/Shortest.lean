import AccessWeave.Decimal.Binary
import AccessWeave.Decimal.Digits

/-!
The shortest decimal that reads back as a given binary number. All decimals between the
midpoints to the two neighbours round to the number; the midpoints themselves do when the
significand is even. For one digit, two digits and so on, only the two decimals next to the
number on that grid can lie in between, so the first grid with a hit has the fewest digits.
Of two hits the nearer is taken, and an exact tie is left to the caller.
-/

namespace AccessWeave.Decimal

inductive Tie
  | upward
  | even
  deriving DecidableEq, Repr

/-- Digits behind the decimal point of a number scaled by a power of ten: the value is
zero, point, the digits, times ten to the place. -/
structure Scaled where
  digits : List Digit
  place : Int
  deriving DecidableEq, Repr

/-- A positive number with the bounds of what rounds to it, over one denominator. -/
structure RoundingInterval where
  lower : Nat
  value : Nat
  upper : Nat
  denominator : Nat
  closed : Bool

/-- Quarter units keep the nearer lower neighbour of a power of two exact. -/
def roundingInterval (format : BinaryFormat) (significand : Nat) (exponent : Int) :
    RoundingInterval :=
  let scale := twoTo (exponent - 2).toNat
  let closeBelow :=
    significand = twoTo format.fractionBits ∧ format.leastExponent < exponent
  { lower := (4 * significand - (if closeBelow then 1 else 2)) * scale
    value := 4 * significand * scale
    upper := (4 * significand + 2) * scale
    denominator := twoTo (2 - exponent).toNat
    closed := significand % 2 = 0 }

/-- The least number of decimal places at which a positive quotient shows a digit. -/
def leadingPlaces : Nat → Nat → Nat → Nat
  | 0, _, _ => 0
  | fuel + 1, numerator, denominator =>
      if denominator ≤ numerator then 0
      else leadingPlaces fuel (numerator * 10) denominator + 1

/-- The place at which the digits of a positive quotient begin. -/
def placeOf (numerator denominator : Nat) : Int :=
  if denominator ≤ numerator then (digitCount (numerator / denominator) : Int)
  else 1 - (leadingPlaces (denominator.log2 + 1) numerator denominator : Int)

namespace RoundingInterval

/-- The interval in units of a decimal grid with the given last place. -/
def onGrid (interval : RoundingInterval) (lastPlace : Int) : RoundingInterval :=
  let up := tenTo (-lastPlace).toNat
  { lower := interval.lower * up
    value := interval.value * up
    upper := interval.upper * up
    denominator := interval.denominator * tenTo lastPlace.toNat
    closed := interval.closed }

def holds (interval : RoundingInterval) (point : Nat) : Bool :=
  let scaled := point * interval.denominator
  if interval.closed then interval.lower ≤ scaled && scaled ≤ interval.upper
  else interval.lower < scaled && scaled < interval.upper

def prefersUpper (interval : RoundingInterval) (tie : Tie) : Bool :=
  let floor := interval.value / interval.denominator
  let twice := 2 * (interval.value % interval.denominator)
  if twice < interval.denominator then false
  else if interval.denominator < twice then true
  else match tie with
    | .upward => true
    | .even => floor % 2 = 1

/-- The neighbour on the grid that rounds to the number, if one does. -/
def candidate (interval : RoundingInterval) (tie : Tie) : Option Nat :=
  let floor := interval.value / interval.denominator
  match interval.holds floor, interval.holds (floor + 1) with
  | true, true => some (if interval.prefersUpper tie then floor + 1 else floor)
  | true, false => some floor
  | false, true => some (floor + 1)
  | false, false => none

end RoundingInterval

def searchGrids (interval : RoundingInterval) (tie : Tie) (place : Int) :
    Nat → Nat → Nat × Int
  | 0, digits => (0, place - digits)
  | fuel + 1, digits =>
      let lastPlace := place - digits
      match (interval.onGrid lastPlace).candidate tie with
      | some point => (point, lastPlace)
      | none => searchGrids interval tie place fuel (digits + 1)

def dropTrailingZeros (digits : List Digit) : List Digit :=
  (digits.reverse.dropWhile (· == zeroDigit)).reverse

/-- The shortest decimal of a positive number. Seventeen digits always suffice. -/
def shortest (format : BinaryFormat) (tie : Tie) (significand : Nat) (exponent : Int) :
    Scaled :=
  let interval := roundingInterval format significand exponent
  let place := placeOf interval.value interval.denominator
  let (point, lastPlace) := searchGrids interval tie place 17 1
  let digits := digitsOf point
  { digits := dropTrailingZeros digits, place := digits.length + lastPlace }

end AccessWeave.Decimal
