import AccessWeave.Shell.Pattern

/-!
From what a word was filled with to fields. The value of a parameter that is not quoted is
divided at separators. Blanks among the separators divide as often as they follow each other,
each other separator divides once; the ends of parameters divide like blanks, or, between
quotation marks, each on its own. A mark keeps a field that would otherwise be empty and gone.
-/

namespace AccessWeave.Shell

inductive Cell
  /-- A character that can have a meaning in a pattern. -/
  | plain (character : Char)
  | literal (character : Char)
  | mark
  /-- The end of one parameter and the start of the next. -/
  | gap
  deriving DecidableEq, Repr

namespace Cell

def character? : Cell → Option Char
  | plain character => some character
  | literal character => some character
  | _ => none

def ofText (isQuoted : Bool) (text : String) : List Cell :=
  text.toList.map (if isQuoted then literal else plain)

def text (cells : List Cell) : String := String.ofList (cells.filterMap character?)

/-- The pattern that cells spell. Literal characters are escaped. -/
def pattern (cells : List Cell) : List Char :=
  cells.flatMap fun
    | plain character => [character]
    | literal character => ['\\', character]
    | mark => []
    | gap => []

/-- The sign that stands before a character that is marked. -/
def markSign : Char := '\x81'

def isLikeSign (character : Char) : Bool := markSign ≤ character && character ≤ '\x88'

/-- Whether the character is marked so that it keeps meaning itself. -/
def isMarked : Cell → Bool
  | plain character => isLikeSign character
  | literal character => isLikeSign character || character ∈ "!*?[=~:/-]\\".toList
  | _ => false

/-- Whether a cell separates fields: always at a gap, elsewhere at a separator. -/
def separates (separators : List Char) (cell : Cell) : Bool :=
  match cell with
  | gap => true
  | mark => false
  | plain character => character ∈ separators
  | literal character => character ∈ separators

def isBlank : Cell → Bool
  | gap => true
  | mark => false
  | plain character => character ∈ [' ', '\t', '\n']
  | literal character => character ∈ [' ', '\t', '\n']

end Cell

inductive Division
  | never
  | atSeparators
  | atGaps
  deriving DecidableEq, Repr

structure Fragment where
  division : Division
  cells : List Cell
  deriving DecidableEq, Repr

namespace Fragment

def whole (cells : List Cell) : Fragment := ⟨.never, cells⟩

def cellsOf (fragments : List Fragment) : List Cell := fragments.flatMap Fragment.cells

end Fragment

/-- Fields that are finished, the last first, and the one that is being filled. -/
structure Dividing where
  finished : List (List Cell)
  current : List Cell
  afterBlank : Bool
  /-- How many fields there may be, counting the one being filled, if that is limited. -/
  left : Option Nat
  /-- How many cells of the field stay when nothing but separators follows. -/
  kept : Option Nat
  last : Division
  deriving DecidableEq, Repr

namespace Dividing

def start (limit : Option Nat) : Dividing := ⟨[], [], false, limit, none, .never⟩

def add (dividing : Dividing) (cell : Cell) : Dividing :=
  { dividing with current := cell :: dividing.current, afterBlank := false }

/-- Takes a cell of the last field that may be made. Separators stay in it, but for blanks at
its end. -/
def addToLast (separators : List Char) (dividing : Dividing) (cell : Cell) : Dividing :=
  let isSeparator := cell.separates separators
  if isSeparator && cell.isBlank then
    { dividing with
      kept := some (dividing.kept.getD dividing.current.length)
      current := cell :: dividing.current }
  else
    { dividing.add cell with
      kept := if isSeparator && dividing.afterBlank then dividing.kept else none }

def separate (dividing : Dividing) (isBlank : Bool) (cell : Cell) : Dividing :=
  if dividing.current.isEmpty && isBlank then { dividing with afterBlank := false }
  else if dividing.left = some 1 then
    { dividing with
      left := some 0, kept := some dividing.current.length
      current := cell :: dividing.current, afterBlank := isBlank }
  else
    { dividing with
      left := dividing.left.map (· - 1)
      finished := dividing.current.reverse :: dividing.finished
      current := [], afterBlank := isBlank }

/-- Takes a cell. `bySingleGaps` tells that gaps do not count as blanks. -/
def take (separators : List Char) (bySingleGaps : Bool) (dividing : Dividing) (cell : Cell) :
    Dividing :=
  let isSeparator := cell.separates separators
  if dividing.left = some 0 then dividing.addToLast separators cell
  else if dividing.afterBlank then
    if isSeparator then
      { dividing with current := [], afterBlank := cell.isBlank }
    else { dividing with current := [cell], afterBlank := false }
  else if isSeparator then dividing.separate (cell.isBlank && !bySingleGaps) cell
  else dividing.add cell

def takeFragment (separators : List Char) (dividing : Dividing) (fragment : Fragment) :
    Dividing :=
  match fragment.division with
  | .never => { dividing with current := fragment.cells.reverse ++ dividing.current }
  | division =>
      let separators := if division = .atGaps then [] else separators
      let bySingleGaps := division = .atGaps || dividing.last = .atGaps
      fragment.cells.foldl (take separators bySingleGaps)
        { dividing with afterBlank := false, last := division }

/-- All fields. An empty one at the end counts only after a gap. -/
def finish (dividing : Dividing) : List (List Cell) :=
  let current := dividing.current.reverse
  if dividing.last = .atGaps then (current :: dividing.finished).reverse
  else
    let current := match dividing.kept with
      | some count => current.take count
      | none => current
    if current.isEmpty then dividing.finished.reverse
    else (current :: dividing.finished).reverse

end Dividing

def fieldsOf (separators : List Char) (limit : Option Nat) (fragments : List Fragment) :
    List (List Cell) :=
  (fragments.foldl (Dividing.takeFragment separators) (.start limit)).finish

end AccessWeave.Shell
