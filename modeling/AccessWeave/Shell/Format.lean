import AccessWeave.Shell.Escapes
import AccessWeave.Shell.Floating

/-!
Forms that are filled in with arguments. A form is text with directives in it; each directive
takes an argument and shows it in its own way. The form is used as often as it takes to use up
the arguments, and arguments that are not there count as empty or zero.
-/

namespace AccessWeave.Shell.Format

structure Directive where
  flags : List Char
  /-- The least width. A negative one aligns to the left. -/
  width : Int
  precision : Option Nat
  conversion : Char
  deriving DecidableEq, Repr

namespace Directive

def has (directive : Directive) (flag : Char) : Bool := flag ∈ directive.flags

def isLeft (directive : Directive) : Bool := directive.has '-' || directive.width < 0

/-- A text filled up with blanks, or with zeros after what stands in front of it. -/
def padded (directive : Directive) (fillsZeros : Bool) (front text : List Char) : List Char :=
  let missing := directive.width.natAbs - (front.length + text.length)
  if directive.isLeft then front ++ text ++ List.replicate missing ' '
  else if fillsZeros && directive.has '0' then front ++ List.replicate missing '0' ++ text
  else List.replicate missing ' ' ++ front ++ text

def sign (directive : Directive) (isNegative : Bool) : List Char :=
  if isNegative then ['-']
  else if directive.has '+' then ['+']
  else if directive.has ' ' then [' ']
  else []

def string (directive : Directive) (text : List Char) : List Char :=
  let text := match directive.precision with
    | some limit => text.take limit
    | none => text
  directive.padded false [] text

def character (directive : Directive) (character : Char) : List Char :=
  directive.padded false [] [character]

def integer (directive : Directive) (isNegative : Bool) (magnitude : Nat) : List Char :=
  let least := directive.precision.getD 1
  let isSigned := directive.conversion ∈ ['d', 'i']
  let base := match directive.conversion with
    | 'o' => 8
    | 'x' => 16
    | 'X' => 16
    | _ => 10
  let digits := Floating.digitsOf base (directive.conversion = 'X') least magnitude
  let digits :=
    if directive.has '#' && base = 8 && digits.head? ≠ some '0' then '0' :: digits else digits
  let front :=
    if isSigned then directive.sign isNegative
    else if directive.has '#' && base = 16 && magnitude ≠ 0 then
      ['0', directive.conversion]
    else []
  directive.padded directive.precision.isNone front digits

/-- A number with a fraction. Zeros stand after the two letters in front of hexadecimal digits. -/
def floating (directive : Directive) (value : Floating) : List Char :=
  let (text, fillsZeros) := Floating.magnitudeText directive.conversion (directive.has '#')
    directive.precision value.magnitude
  let letters := if directive.conversion.toLower = 'a' && fillsZeros then 2 else 0
  directive.padded fillsZeros (directive.sign value.isNegative ++ text.take letters)
    (text.drop letters)

end Directive

structure Printing where
  /-- What is written, the last character first. -/
  written : List Char
  /-- What is complained of, the last complaint first. -/
  complaints : List String
  left : List String
  isOver : Bool
  deriving DecidableEq, Repr

namespace Printing

def write (printing : Printing) (text : List Char) : Printing :=
  { printing with written := text.reverse ++ printing.written }

def complain (printing : Printing) (complaint : String) : Printing :=
  { printing with complaints := complaint :: printing.complaints }

def argument (printing : Printing) : Option String × Printing :=
  (printing.left.head?, { printing with left := printing.left.tail })

/-- Complains of a numeral that is none, that goes on, or that is out of range. -/
def judge (printing : Printing) (text : String) (isThere isWhole isInRange : Bool) : Printing :=
  if !isWhole then
    if isThere then printing.complain (text ++ ": not completely converted")
    else printing.complain (text ++ ": expected numeric value")
  else if !isInRange then printing.complain (text ++ ": Numerical result out of range")
  else printing

/-- The number of the character after a quotation mark, which spells it. -/
def quotedNumber? (text : List Char) : Option Nat :=
  match text with
  | '"' :: rest => some ((rest.head?.map Char.toNat).getD 0)
  | '\'' :: rest => some ((rest.head?.map Char.toNat).getD 0)
  | _ => none

def signed (printing : Printing) : Int × Printing :=
  match printing.argument with
  | (none, after) => (0, after)
  | (some text, after) =>
      match quotedNumber? text.toList with
      | some number => (number, after)
      | none =>
          let numeral := Numeral.scanned false text.toList
          (numeral.nearest.toInt,
            after.judge text numeral.isThere numeral.rest.isEmpty numeral.isInRange)

/-- The next argument as a number without a sign. A sign turns it around the whole range. -/
def unsigned (printing : Printing) : Nat × Printing :=
  match printing.argument with
  | (none, after) => (0, after)
  | (some text, after) =>
      match quotedNumber? text.toList with
      | some number => (number, after)
      | none =>
          let numeral := Numeral.scanned false text.toList
          let isInRange := decide (numeral.magnitude < UInt64.size)
          let value :=
            if isInRange then (numeral.value % (UInt64.size : Int)).toNat else UInt64.size - 1
          (value, after.judge text numeral.isThere numeral.rest.isEmpty isInRange)

def floating (printing : Printing) : Floating × Printing :=
  match printing.argument with
  | (none, after) => (Floating.zero, after)
  | (some text, after) =>
      match quotedNumber? text.toList with
      | some number => ((Floating.nearest false number 1).1, after)
      | none =>
          let (numeral, isThere) := Floating.scanned text.toList
          (numeral.value,
            after.judge text isThere numeral.rest.isEmpty (!numeral.isOutOfRange))

end Printing

/-- Reads a width or precision: a number, or an asterisk for an argument. -/
def readSize (printing : Printing) (form : List Char) :
    Option Int × Printing × List Char :=
  match form with
  | '*' :: rest =>
      let (size, after) := printing.signed
      (some (Int32.ofInt size).toInt, after, rest)
  | _ =>
      let digits := form.takeWhile Char.isDigit
      let size := if digits.isEmpty then none
        else some (digits.foldl (fun size digit => size * 10 + (digit.toNat - 48 : Nat)) 0 : Int)
      (size, printing, form.dropWhile Char.isDigit)

/-- Reads a directive after its percent sign: how to show something, and what is left of the
form from the letter on. -/
def readDirective (printing : Printing) (form : List Char) :
    Directive × Printing × List Char :=
  let isFlag (character : Char) : Bool := character ∈ ['#', '-', '+', ' ', '0']
  let flags := form.takeWhile isFlag
  let (width, printing, rest) := readSize printing (form.dropWhile isFlag)
  let (precision, printing, rest) := match rest with
    | '.' :: after =>
        let (size, printing, rest) := readSize printing after
        let size := size.getD 0
        (if size < 0 then none else some size.toNat, printing, rest)
    | _ => (none, printing, rest)
  (⟨flags, width.getD 0, precision, rest.head?.getD ' '⟩, printing, rest)

/-- Shows an argument as a directive says, if its letter is one of those that do. -/
def show? (directive : Directive) (printing : Printing) : Option Printing :=
  let conversion := directive.conversion
  if conversion = 's' then
    let (text, after) := printing.argument
    some (after.write (directive.string (text.getD "").toList))
  else if conversion = 'b' then
    let (text, after) := printing.argument
    let (spelled, isOver) := Escapes.unescaped (text.getD "").toList
    some { after.write (directive.string spelled) with isOver }
  else if conversion = 'c' then
    let (text, after) := printing.argument
    some (after.write
      (directive.character (((text.bind fun text => text.toList.head?)).getD '\x00')))
  else if conversion ∈ ['d', 'i'] then
    let (value, after) := printing.signed
    some (after.write (directive.integer (value < 0) value.natAbs))
  else if conversion ∈ ['o', 'u', 'x', 'X'] then
    let (value, after) := printing.unsigned
    some (after.write (directive.integer false value))
  else if conversion ∈ ['a', 'A', 'e', 'E', 'f', 'F', 'g', 'G'] then
    let (value, after) := printing.floating
    some (after.write (directive.floating value))
  else none

/-- Fills in a form once, in at most as many steps as it has characters. The second part tells
what is wrong with the form. -/
def fillOnce : Nat → List Char → Printing → Printing × Option String
  | 0, _, printing => (printing, none)
  | _, [], printing => (printing, none)
  | steps + 1, '\\' :: rest, printing =>
      let (character, after) := Escapes.spelled rest
      fillOnce steps after (printing.write [character])
  | steps + 1, '%' :: '%' :: rest, printing => fillOnce steps rest (printing.write ['%'])
  | steps + 1, '%' :: form, printing =>
      let (directive, printing, rest) := readDirective printing form
      match rest with
      | [] => (printing, some "missing format character")
      | _ :: after =>
          match show? directive printing with
          | some shown => if shown.isOver then (shown, none) else fillOnce steps after shown
          | none =>
              let text := '%' :: form.take (form.length - after.length)
              (printing, some (String.ofList text ++ ": invalid directive"))
  | steps + 1, character :: rest, printing => fillOnce steps rest (printing.write [character])

/-- Fills in a form as long as there are arguments and the form takes some. -/
def fillAll : Nat → List Char → Printing → Printing × Option String
  | 0, _, printing => (printing, none)
  | rounds + 1, form, printing =>
      match fillOnce (form.length + 1) form printing with
      | (after, some fault) => (after, some fault)
      | (after, none) =>
          if after.isOver || after.left.isEmpty || after.left.length = printing.left.length then
            (after, none)
          else fillAll rounds form after

def filled (form : String) (arguments : List String) : Printing × Option String :=
  fillAll (arguments.length + 1) form.toList ⟨[], [], arguments, false⟩

def echoed (arguments : List String) : List Char :=
  let (endsLine, words) := match arguments with
    | "-n" :: words => (false, words)
    | words => (true, words)
  spell endsLine words
where
  spell (endsLine : Bool) : List String → List Char
    | [] => if endsLine then ['\n'] else []
    | word :: others =>
        let (text, isOver) := Escapes.unescaped word.toList
        if isOver then text
        else text ++ (if others.isEmpty then [] else [' ']) ++ spell endsLine others

end AccessWeave.Shell.Format
