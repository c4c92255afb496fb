import AccessWeave.Ascending
import AccessWeave.Text.Letter
import AccessWeave.Text.Numeral
import AccessWeave.Text.Split

/-!
Principals: the modules that code belongs to. In configuration a principal is the word
module, one space, and a name of segments joined by points. A segment begins with a letter,
an underscore or a dollar sign, and goes on with those and numerals.
-/

namespace AccessWeave

structure Principal where
  name : String
  deriving DecidableEq, Repr

def beginsSegment (character : Char) : Bool :=
  Text.isLetter character || character = '_' || character = '$'

def continuesSegment (character : Char) : Bool :=
  beginsSegment character || Text.isNumeral character

def isSegment : List Char → Bool
  | [] => false
  | first :: rest => beginsSegment first && rest.all continuesSegment

/-- Whether every piece between the points is a segment; an empty name has an empty piece. -/
def isModuleName (name : List Char) : Bool := (Text.pieces '.' name).all isSegment

structure NotAPrincipal where
  value : String
  deriving DecidableEq, Repr

def NotAPrincipal.message (error : NotAPrincipal) : String :=
  "Not a valid module name: " ++ error.value

namespace Principal

def keyword : String := "module"

/-- The form that configuration uses. -/
def text (principal : Principal) : String := keyword ++ " " ++ principal.name

def parse (value : String) : Except NotAPrincipal Principal :=
  match Text.cutOnce (· = ' ') value.toList with
  | none => .error ⟨value⟩
  | some (before, name) =>
      if before = keyword.toList ∧ isModuleName name then .ok ⟨String.ofList name⟩
      else .error ⟨value⟩

def sort (principals : List Principal) : List Principal :=
  principals.mergeSort fun left right => left.name ≤ right.name

end Principal

structure PrincipalSet where
  members : List Principal
  ascending : Ascending Principal.name members
  deriving DecidableEq

namespace PrincipalSet

def empty : PrincipalSet := ⟨[], List.Pairwise.nil⟩

def insert (principal : Principal) (set : PrincipalSet) : PrincipalSet :=
  ⟨insertAscending Principal.name principal set.members, insert_ascending _ set.ascending⟩

def ofList (principals : List Principal) : PrincipalSet :=
  ⟨ascendingOf Principal.name principals, ascending_of_ascending _ _⟩

def contains (set : PrincipalSet) (principal : Principal) : Bool := principal ∈ set.members

end PrincipalSet

end AccessWeave
