import AccessWeave.Text.Split

/-!
Network addresses as they are given: a host and, after the last colon, a port. A host is a
number in one of the usual forms, which is known without asking anyone, or a name. A number of
four bytes has up to four parts, the last of which fills the bytes that are left; a number of
sixteen bytes has eight groups, of which a run can be left out once.
-/

namespace AccessWeave.Address

/-- The value of digits in a base, when there are any and all are digits of that base. -/
def numberIn? (base : Nat) (digits : List Char) : Option Nat :=
  if digits = [] then none
  else digits.foldlM
    (fun total digit =>
      let value := if digit.isDigit then digit.toNat - 48 else digit.toLower.toNat - 87
      if digit.isAlphanum ∧ value < base then some (total * base + value) else none)
    0

def port? (characters : List Char) : Option Nat :=
  let digits := match characters with
    | '+' :: rest => rest
    | other => other
  (numberIn? 10 digits).filter (· < 65536)

/-- One part of a number of four bytes. A zero in front asks for base eight, or for base sixteen
when a letter x follows. -/
def part? (characters : List Char) : Option Nat :=
  match characters with
  | '0' :: 'x' :: digits => numberIn? 16 digits
  | '0' :: 'X' :: digits => numberIn? 16 digits
  | '0' :: _ => numberIn? 8 characters
  | digits => numberIn? 10 digits

/-- Whether parts fill the bytes that are left, given how many numbers those can hold. -/
def fillsBytes (room : Nat) : List (List Char) → Bool
  | [] => false
  | [last] => (part? last).any fun value => 1 < room && value < room
  | part :: rest => (part? part).any fun value => value < 256 && fillsBytes (room / 256) rest

def isFourByteNumber (host : List Char) : Bool :=
  fillsBytes UInt32.size (Text.pieces '.' host)

def isOctet (characters : List Char) : Bool :=
  (characters.length = 1 || characters.head? ≠ some '0')
    && (numberIn? 10 characters).any fun value => value < 256

/-- How many groups of two bytes texts between colons stand for. The last may be a number of four
bytes in decimal parts. -/
def groupCount? : List (List Char) → Option Nat
  | [] => some 0
  | [last] =>
      let parts := Text.pieces '.' last
      if parts.length = 4 ∧ parts.all isOctet then some 2
      else if last.length ≤ 4 ∧ (numberIn? 16 last).isSome then some 1
      else none
  | group :: rest =>
      if group.length ≤ 4 ∧ (numberIn? 16 group).isSome then (groupCount? rest).map (· + 1)
      else none

def cutAtRun : List Char → Option (List Char × List Char)
  | ':' :: ':' :: rest => some ([], rest)
  | character :: rest => (cutAtRun rest).map fun (before, after) => (character :: before, after)
  | [] => none

def groups (characters : List Char) : List (List Char) :=
  if characters = [] then [] else Text.pieces ':' characters

def isSixteenByteNumber (host : List Char) : Bool :=
  match cutAtRun host with
  | none => groupCount? (groups host) = some 8
  | some (before, after) =>
      '.' ∉ before && ((groupCount? (groups before)).any fun front =>
        (groupCount? (groups after)).any fun back => front + back < 8)

def bracketed? (host : List Char) : Option (List Char) :=
  match host with
  | '[' :: rest =>
      if rest.getLast? = some ']' then some rest.dropLast else none
  | _ => none

/-- Whether the host of an address is known without asking: a number, the host itself by its
name, or a star, which stands for it. -/
def isKnown (host port : List Char) : Bool :=
  isFourByteNumber host || isSixteenByteNumber host
    || ((bracketed? host).any isSixteenByteNumber && port.all Char.isDigit)
    || host = "localhost".toList || host = ['*']

/-- The most characters between two points of a name, and the most in all. -/
def labelLimit : Nat := 63

def nameLimit : Nat := 253

def isLabel (label : List Char) : Bool :=
  label ≠ [] && label.length ≤ labelLimit
    && label.all fun letter => letter.isAlphanum || letter = '-' || letter = '_'

/-- Whether a host can be asked for by its name. A point at the end does not count. -/
def isName (host : List Char) : Bool :=
  let labels := Text.pieces '.' host
  let counted := if labels.getLast? = some [] then labels.dropLast else labels
  host = ['.'] || (host ≠ [] && host.length ≤ nameLimit && host.head? ≠ some '-'
    && counted.all isLabel)

end AccessWeave.Address
