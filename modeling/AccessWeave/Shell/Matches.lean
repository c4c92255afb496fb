import AccessWeave.Host.Tree
import AccessWeave.Shell.Pattern
import AccessWeave.Text.Octets

/-!
The paths that fit a pattern, in order. A pattern is matched name by name, so no sign stands for
a slash, and a name that begins with a point has to be asked for with one. Where no sign stands
for anything there is nothing to look for.
-/

namespace AccessWeave.Shell.Matches

def parts : List Char → List (List Char)
  | [] => [[]]
  | '\\' :: '/' :: rest => [] :: parts rest
  | '/' :: rest => [] :: parts rest
  | '\\' :: character :: rest =>
      match parts rest with
      | [] => [['\\', character]]
      | part :: others => ('\\' :: character :: part) :: others
  | character :: rest =>
      match parts rest with
      | [] => [[character]]
      | part :: others => (character :: part) :: others

def closes : List Char → Bool
  | [] => false
  | '\\' :: _ :: rest => closes rest
  | ']' :: _ => true
  | _ :: rest => closes rest

def opensSet (rest : List Char) : Bool :=
  let items := match rest with
    | '!' :: items => items
    | _ => rest
  match items with
  | '\\' :: _ :: others => closes others
  | _ :: others => closes others
  | [] => false

def hasSign : List Char → Bool
  | [] => false
  | '\\' :: _ :: rest => hasSign rest
  | '[' :: rest => opensSet rest || hasSign rest
  | character :: rest => character = '*' || character = '?' || hasSign rest

def unescaped : List Char → List Char
  | '\\' :: character :: rest => character :: unescaped rest
  | character :: rest => character :: unescaped rest
  | [] => []

def asksForPoint (part : List Char) : Bool :=
  match part with
  | '.' :: _ => true
  | '\\' :: '.' :: _ => true
  | _ => false

def namesFitting (tree : Tree) (directory : String) (part : List Char) : List String :=
  let path : Path := ⟨if directory = "" then "." else Text.ofOctets directory⟩
  match tree.locate path with
  | .error _ => []
  | .ok location =>
      if tree.entryAt? location = some .directory then
        ((["." , ".."] ++ (tree.names location).map Text.octets).filter fun name =>
          (name.toList.head? ≠ some '.' || asksForPoint part) && Pattern.fits part name.toList)
      else []

/-- The paths that begin with a text and go on as the parts tell. The text ends with a slash,
unless it is empty. -/
def pathsFrom (tree : Tree) (text : String) : List (List Char) → List String
  | [] => []
  | part :: others =>
      if hasSign part then
        (namesFitting tree text part).flatMap fun name =>
          if others.isEmpty then [text ++ name] else pathsFrom tree (text ++ name ++ "/") others
      else
        let extended := text ++ String.ofList (unescaped part)
        if others.isEmpty then
          if tree.holds ⟨Text.ofOctets extended⟩ then [extended] else []
        else pathsFrom tree (extended ++ "/") others

def paths (tree : Tree) (pattern : List Char) : List String :=
  let parts := parts pattern
  if parts.any hasSign then (pathsFrom tree "" parts).mergeSort fun left right => left ≤ right
  else []

end AccessWeave.Shell.Matches
