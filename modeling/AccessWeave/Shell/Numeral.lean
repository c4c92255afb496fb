import AccessWeave.Shell.Pattern

/-!
Numbers as they are written. A numeral can have blanks and a sign in front. In base ten it is
made of digits; where the base is told by the numeral, a zero in front means base eight and a
zero with the letter x base sixteen. A number has sixty-four bits, and one that does not fit is
the nearest that does.
-/

namespace AccessWeave.Shell

structure Numeral where
  isNegative : Bool
  magnitude : Nat
  rest : List Char
  isThere : Bool
  deriving DecidableEq, Repr

namespace Numeral

def digitValue (character : Char) : Nat :=
  if character.isDigit then character.toNat - 48
  else if character.isLower then character.toNat - 87
  else if character.isUpper then character.toNat - 55
  else 36

def isDigitIn (base : Nat) (character : Char) : Bool := digitValue character < base

def ofDigits (isNegative : Bool) (base : Nat) (digits : List Char) : Numeral :=
  let read := digits.takeWhile (isDigitIn base)
  ⟨isNegative, read.foldl (fun value digit => value * base + digitValue digit) 0,
    digits.dropWhile (isDigitIn base), !read.isEmpty⟩

/-- The numeral after a sign in the base that it tells itself. -/
def ofTold (isNegative : Bool) (digits : List Char) : Numeral :=
  match digits with
  | '0' :: letter :: digit :: rest =>
      if letter.toLower = 'x' && isDigitIn 16 digit then ofDigits isNegative 16 (digit :: rest)
      else ofDigits isNegative 8 digits
  | '0' :: _ => ofDigits isNegative 8 digits
  | _ => ofDigits isNegative 10 digits

def scanned (isDecimal : Bool) (text : List Char) : Numeral :=
  let read (isNegative : Bool) (digits : List Char) : Numeral :=
    if isDecimal then ofDigits isNegative 10 digits else ofTold isNegative digits
  let numeral := match text.dropWhile Pattern.isSpace with
    | '-' :: digits => read true digits
    | '+' :: digits => read false digits
    | digits => read false digits
  if numeral.isThere then numeral else { numeral with rest := text }

def value (numeral : Numeral) : Int :=
  if numeral.isNegative then -(numeral.magnitude : Int) else numeral.magnitude

def isInRange (numeral : Numeral) : Bool :=
  Int64.minValue.toInt ≤ numeral.value && numeral.value ≤ Int64.maxValue.toInt

def nearest (numeral : Numeral) : Int64 :=
  if numeral.value < Int64.minValue.toInt then Int64.minValue
  else if Int64.maxValue.toInt < numeral.value then Int64.maxValue
  else Int64.ofInt numeral.value

end Numeral

def wholeNumber? (isDecimal : Bool) (text : String) : Option Int64 :=
  let numeral := Numeral.scanned isDecimal text.toList
  if numeral.isInRange && (numeral.isThere || !isDecimal)
      && numeral.rest.all Pattern.isSpace then some numeral.nearest
  else none

def count? (text : String) : Option Nat :=
  match wholeNumber? true text with
  | some number =>
      if 0 ≤ number.toInt && number.toInt ≤ Int32.maxValue.toInt then some number.toInt.toNat
      else none
  | none => none

end AccessWeave.Shell
