import AccessWeave.Decimal.Layout
import AccessWeave.Json.Document

/-!
What JSON numbers mean. A literal without fraction and exponent is an integer when it fits
sixty-four bits, with or without sign; minus zero is not an integer. Every other literal is
a binary64 number. Its first digits are gathered into a significand as long as they fit
sixty-four bits, further digits only move the decimal point, and the significand is then
multiplied or divided by a rounded power of ten. So a literal of many digits, or with a large
exponent, can differ from the nearest binary64 number in its last place. A literal beyond the
largest finite number means nothing, and one below the smallest positive number means zero.
-/

namespace AccessWeave.Json

open Decimal

inductive Quantity
  | integer (value : Int)
  | real (negative : Bool) (magnitude : Nat)
  deriving DecidableEq, Repr

/-- Gathers digits while the significand fits sixty-four bits; the digits left over. -/
def gather : Nat → List Digit → Nat × List Digit
  | significand, [] => (significand, [])
  | significand, digit :: digits =>
      let longer := significand * 10 + digit.val
      if longer < UInt64.size then gather longer digits else (significand, digit :: digits)

def powerOfTen (places : Nat) : Nat := binary64.nearest (tenTo places) 1

/-- A magnitude divided by a power of ten, at most 308 places at a time. -/
def lowered (magnitude places : Nat) : Nat :=
  if places ≤ 308 then binary64.quotient magnitude (powerOfTen places)
  else if magnitude = 0 then 0
  else lowered (binary64.quotient magnitude (powerOfTen 308)) (places - 308)
  termination_by places

/-- A magnitude multiplied by a power of ten, when the product is finite. -/
def raised (magnitude places : Nat) : Option Nat :=
  if magnitude = 0 then some 0
  else if places ≤ 308 then
    let product := binary64.product magnitude (powerOfTen places)
    if product < binary64.infinityPattern then some product else none
  else none

def scale (significand : Nat) (places : Int) : Option Nat :=
  let magnitude := binary64.nearest significand 1
  if places < 0 then some (lowered magnitude (-places).toNat)
  else raised magnitude places.toNat

def greatestPlaces : Int := Int32.maxValue.toInt

def leastPlaces : Int := Int32.minValue.toInt

def clampPlaces (places : Int) : Int :=
  if greatestPlaces < places then greatestPlaces
  else if places < leastPlaces then leastPlaces
  else places

def realMagnitude (literal : NumberLiteral) : Option Nat :=
  let (wholePart, wholeRest) := gather 0 literal.whole
  let (significand, fractionRest) := gather wholePart literal.fraction
  let gathered : Int := literal.fraction.length - fractionRest.length
  let places := (wholeRest.length : Int) - gathered
  match literal.exponent with
  | none => scale significand places
  | some exponent =>
      let size := valueOf exponent.digits
      if greatestPlaces < size then
        if significand = 0 || exponent.negative then some 0 else none
      else if exponent.negative then scale significand (clampPlaces (places - size))
      else scale significand (clampPlaces (places + size))

namespace NumberLiteral

def isWhole (literal : NumberLiteral) : Bool :=
  literal.fraction.isEmpty && literal.exponent.isNone

def quantity (literal : NumberLiteral) : Option Quantity :=
  let value := valueOf literal.whole
  if literal.isWhole && !literal.negative && value < UInt64.size then some (.integer value)
  else if literal.isWhole && literal.negative && 0 < value && Int64.minValue.toInt ≤ -value then
    some (.integer (-value))
  else (realMagnitude literal).map (.real literal.negative)

def ofInt (value : Int) : NumberLiteral :=
  { negative := value < 0, whole := digitsOf value.natAbs, fraction := [], exponent := none }

end NumberLiteral

def Quantity.toPattern (format : BinaryFormat) : Quantity → Nat
  | .integer value => format.withSign (value < 0) (format.nearest value.natAbs 1)
  | .real negative magnitude =>
      format.withSign negative (BinaryFormat.convert binary64 format magnitude)

/-- The decimal places for which a number is written without exponent: those above the
first bound and up to the second. -/
structure FixedRange where
  above : Int
  upTo : Int

def fixedRange32 : FixedRange := ⟨-6, 13⟩

def fixedRange64 : FixedRange := ⟨-5, 16⟩

/-- The literal of a finite number: at least one digit after the point when it is written
without exponent, none otherwise unless needed. -/
def scaledLiteral (bounds : FixedRange) (negative : Bool) (scaled : Scaled) : NumberLiteral :=
  if bounds.above < scaled.place ∧ scaled.place ≤ bounds.upTo then
    let (whole, fraction) := scaled.positional
    { negative, whole, fraction := if fraction.isEmpty then [zeroDigit] else fraction,
      exponent := none }
  else
    let place := scaled.place - 1
    { negative, whole := scaled.digits.take 1, fraction := scaled.digits.drop 1,
      exponent := some { negative := place < 0, digits := digitsOf place.natAbs } }

/-- A floating point number as a document: the shortest decimal that reads back, and null for
a number that is not finite. -/
def ofPattern (format : BinaryFormat) (bounds : FixedRange) (pattern : Nat) : Document :=
  match format.magnitude (pattern % format.signPattern) with
  | .finite significand exponent =>
      .number (scaledLiteral bounds (format.isNegative pattern)
        (scaledOf format .even significand exponent))
  | _ => .null

end AccessWeave.Json
