import AccessWeave.Decimal.Binary
import AccessWeave.Decimal.Digits
import AccessWeave.Shell.Numeral

/-!
Numbers with fractions, as they are written and shown. A numeral stands for the nearest number
with fifty-three bits; what is shown are the digits of that number, rounded once, a tie going to
the even digit.
-/

namespace AccessWeave.Shell

open AccessWeave.Decimal

structure Floating where
  isNegative : Bool
  magnitude : Magnitude
  deriving DecidableEq, Repr

structure FloatingNumeral where
  value : Floating
  rest : List Char
  /-- Whether the nearest number is too far off. -/
  isOutOfRange : Bool
  deriving DecidableEq, Repr

namespace Floating

def zero : Floating := ⟨false, .finite 0 0⟩

def leastNormal : Nat := twoTo binary64.fractionBits

def nearest (isNegative : Bool) (numerator denominator : Nat) : Floating × Bool :=
  let pattern := binary64.nearest numerator denominator
  let magnitude := binary64.magnitude pattern
  let isExact := match magnitude with
    | .finite significand exponent =>
        significand * twoTo exponent.toNat * denominator
          = numerator * twoTo (-exponent).toNat
    | _ => false
  (⟨isNegative, magnitude⟩,
    pattern = binary64.infinityPattern || (pattern < leastNormal && !isExact))

def scanExponent (letter : Char) (text : List Char) : Int × List Char :=
  match text with
  | first :: rest =>
      if first.toLower ≠ letter then (0, text)
      else
        let (isNegative, digits) := match rest with
          | '-' :: digits => (true, digits)
          | '+' :: digits => (false, digits)
          | digits => (false, digits)
        let read := Numeral.ofDigits isNegative 10 digits
        if read.isThere then (read.value, read.rest) else (0, text)
  | [] => (0, text)

/-- Digits around a point: their value without the point, how many stand after it, and what
follows them. -/
def scanDigits? (base : Nat) (text : List Char) : Option (Nat × Nat × List Char) :=
  let whole := text.takeWhile (Numeral.isDigitIn base)
  let after := text.dropWhile (Numeral.isDigitIn base)
  let (fraction, rest) := match after with
    | '.' :: others =>
        (others.takeWhile (Numeral.isDigitIn base), others.dropWhile (Numeral.isDigitIn base))
    | _ => ([], after)
  let digits := whole ++ fraction
  if digits.isEmpty then none
  else some
    (digits.foldl (fun value digit => value * base + Numeral.digitValue digit) 0,
      fraction.length, rest)

/-- The greatest exponent that is told apart from greater ones. -/
def exponentLimit : Int := 5000

def limited (exponent : Int) : Int := max (-exponentLimit) (min exponentLimit exponent)

def scanDecimal? (isNegative : Bool) (text : List Char) : Option FloatingNumeral := do
  let (digits, places, rest) ← scanDigits? 10 text
  let (exponent, rest) := scanExponent 'e' rest
  let exponent := limited (exponent - places)
  let (value, isOut) :=
    nearest isNegative (digits * tenTo exponent.toNat) (tenTo (-exponent).toNat)
  some ⟨value, rest, isOut⟩

def scanHexadecimal? (isNegative : Bool) (text : List Char) : Option FloatingNumeral :=
  match text with
  | '0' :: letter :: digits =>
      if letter.toLower = 'x' then do
        let (digits, places, rest) ← scanDigits? 16 digits
        let (exponent, rest) := scanExponent 'p' rest
        let exponent := limited (exponent - 4 * places)
        let (value, isOut) :=
          nearest isNegative (digits * twoTo exponent.toNat) (twoTo (-exponent).toNat)
        some ⟨value, rest, isOut⟩
      else none
  | _ => none

def scanWord? (isNegative : Bool) (text : List Char) : Option FloatingNumeral :=
  let lower := text.map Char.toLower
  let word? (word : String) (magnitude : Magnitude) : Option FloatingNumeral :=
    (word.toList.isPrefixOf? lower).map fun _ =>
      ⟨⟨isNegative, magnitude⟩, text.drop word.length, false⟩
  (word? "infinity" .infinite).or ((word? "inf" .infinite).or (word? "nan" .notANumber))

def scanned (text : List Char) : FloatingNumeral × Bool :=
  let (isNegative, after) := match text.dropWhile Pattern.isSpace with
    | '-' :: after => (true, after)
    | '+' :: after => (false, after)
    | after => (false, after)
  let found := (scanHexadecimal? isNegative after).or
    ((scanDecimal? isNegative after).or (scanWord? isNegative after))
  match found with
  | some numeral => (numeral, true)
  | none => (⟨zero, text, false⟩, false)

def digitsOf (base : Nat) (isUpper : Bool) (least value : Nat) : List Char :=
  let digits := if value = 0 then [] else Nat.toDigits base value
  let digits := if isUpper then digits.map Char.toUpper else digits
  List.replicate (least - digits.length) '0' ++ digits

/-- A number of tenths, hundredths and so on, with a point in front of so many places. -/
def withPoint (keepsPoint : Bool) (places scaled : Nat) : List Char :=
  let digits := digitsOf 10 false (places + 1) scaled
  let whole := digits.take (digits.length - places)
  let fraction := digits.drop (digits.length - places)
  whole ++ (if 0 < places || keepsPoint then ['.'] else []) ++ fraction

def fixed (keepsPoint : Bool) (places numerator denominator : Nat) : List Char :=
  withPoint keepsPoint places (roundHalfEven (numerator * tenTo places) denominator)

/-- The digits of a quotient, so many after the first, and the exponent of the first. -/
def leading (places numerator denominator : Nat) : Nat × Int :=
  if numerator = 0 then (0, 0)
  else
    let scaledBy (exponent : Int) : Nat :=
      let shift := places - exponent
      roundHalfEven (numerator * tenTo shift.toNat) (denominator * tenTo (-shift).toNat)
    let guess : Int := digitCount numerator - digitCount denominator
    let isBelow :=
      numerator * tenTo (-guess).toNat < denominator * tenTo guess.toNat
    let exponent := if isBelow then guess - 1 else guess
    let scaled := scaledBy exponent
    if tenTo (places + 1) ≤ scaled then (scaled / 10, exponent + 1) else (scaled, exponent)

def exponentText (letter : Char) (least : Nat) (exponent : Int) : List Char :=
  let sign := if exponent < 0 then '-' else '+'
  letter :: sign :: digitsOf 10 false least exponent.natAbs

def scientific (letter : Char) (keepsPoint : Bool) (places numerator denominator : Nat) :
    List Char :=
  let (scaled, exponent) := leading places numerator denominator
  withPoint keepsPoint places scaled ++ exponentText letter 2 exponent

/-- Digits without the zeros after the point, and without the point when nothing follows it. -/
def withoutZeros (digits : List Char) : List Char :=
  if '.' ∈ digits then
    match digits.reverse.dropWhile (· = '0') with
    | '.' :: whole => whole.reverse
    | kept => kept.reverse
  else digits

def general (letter : Char) (keepsZeros : Bool) (digits numerator denominator : Nat) :
    List Char :=
  let digits := max digits 1
  let (scaled, exponent) := leading (digits - 1) numerator denominator
  let trim (text : List Char) : List Char := if keepsZeros then text else withoutZeros text
  if -4 ≤ exponent && exponent < digits then
    trim (fixed keepsZeros (digits - 1 - exponent).toNat numerator denominator)
  else trim (withPoint keepsZeros (digits - 1) scaled) ++ exponentText letter 2 exponent

def hexadecimal (isUpper keepsPoint : Bool) (places : Option Nat) (significand : Nat)
    (exponent : Int) : List Char :=
  let isSmall := significand < leastNormal
  let power : Int := if significand = 0 then 0 else exponent + binary64.fractionBits
  let count := places.getD 13
  let scaled :=
    if count < 13 then roundHalfEven significand (twoTo (4 * (13 - count)))
    else significand * twoTo (4 * (count - 13))
  let digits := digitsOf 16 isUpper (count + 1) scaled
  let fraction := digits.drop (digits.length - count)
  let shown :=
    if places.isNone then (fraction.reverse.dropWhile (· = '0')).reverse else fraction
  let letters := if isUpper then ('X', 'P') else ('x', 'p')
  let first := if isSmall then ['0'] else digits.take (digits.length - count)
  ['0', letters.1] ++ first ++ (if shown.isEmpty && !keepsPoint then [] else ['.']) ++ shown
    ++ exponentText letters.2 1 power

def magnitudeText (conversion : Char) (isAlternative : Bool) (precision : Option Nat)
    (magnitude : Magnitude) : List Char × Bool :=
  let isUpper := conversion.isUpper
  let word (text : String) : List Char := (if isUpper then text.toUpper else text).toList
  match magnitude with
  | .infinite => (word "inf", false)
  | .notANumber => (word "nan", false)
  | .finite significand exponent =>
      let numerator := significand * twoTo exponent.toNat
      let denominator := twoTo (-exponent).toNat
      let places := precision.getD 6
      let text := match conversion.toLower with
        | 'f' => fixed isAlternative places numerator denominator
        | 'e' =>
            scientific (if isUpper then 'E' else 'e') isAlternative places numerator denominator
        | 'g' =>
            general (if isUpper then 'E' else 'e') isAlternative places numerator denominator
        | _ => hexadecimal isUpper isAlternative precision significand exponent
      (text, true)

end Floating

end AccessWeave.Shell
