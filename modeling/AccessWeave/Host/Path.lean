import AccessWeave.Text.Split

/-!
Paths as they are given. A path keeps its text, which is what messages show. Two paths are
compared by their components: repeated slashes, a slash at the end and points inside do not
count, a point at the start does, and nothing is looked up.
-/

namespace AccessWeave

structure Path where
  text : String
  deriving DecidableEq, Repr

inductive Component
  | root
  /-- A point at the start of a relative path. -/
  | current
  | parent
  | name (text : String)
  deriving DecidableEq, Repr

namespace Component

def rank : Component → Nat
  | root => 0
  | current => 1
  | parent => 2
  | name _ => 3

/-- Components by kind, names by their texts. -/
def isBefore (left right : Component) : Bool :=
  match left, right with
  | name a, name b => a < b
  | _, _ => left.rank < right.rank

end Component

def componentsAtMost : List Component → List Component → Bool
  | [], _ => true
  | _ :: _, [] => false
  | left :: lefts, right :: rights =>
      left.isBefore right || (left = right && componentsAtMost lefts rights)

namespace Path

/-- The texts between the slashes, empty ones included. -/
def steps (path : Path) : List String :=
  (Text.pieces '/' path.text.toList).map String.ofList

def isAbsolute (path : Path) : Bool := path.text.toList.head? = some '/'

def stepComponent? (step : String) : Option Component :=
  if step = "" ∨ step = "." then none
  else if step = ".." then some .parent
  else some (.name step)

def components (path : Path) : List Component :=
  let rest := path.steps.filterMap stepComponent?
  if path.isAbsolute then .root :: rest
  else if path.steps.head? = some "." then .current :: rest
  else rest

def sameAs (left right : Path) : Bool := left.components = right.components

def atMost (left right : Path) : Bool := componentsAtMost left.components right.components

def componentText : Component → String
  | .root => ""
  | .current => "."
  | .parent => ".."
  | .name text => text

def ofComponents (components : List Component) : Path :=
  match components with
  | [.root] => ⟨"/"⟩
  | _ => ⟨String.intercalate "/" (components.map componentText)⟩

/-- The path without its last component, when that is not the root. -/
def parent? (path : Path) : Option Path :=
  match path.components.getLast? with
  | none => none
  | some .root => none
  | some _ => some (ofComponents path.components.dropLast)

def fileName? (path : Path) : Option String :=
  match path.components.getLast? with
  | some (.name text) => some text
  | _ => none

/-- The name before its last point and the extension after it. A point that begins the name
begins no extension. -/
def stemAndExtension (name : String) : String × Option String :=
  match Text.cutLast (· = '.') name.toList with
  | none => (name, none)
  | some ([], _) => (name, none)
  | some (stem, extension) => (String.ofList stem, some (String.ofList extension))

def extension? (path : Path) : Option String :=
  path.fileName?.bind fun name => (stemAndExtension name).2

def hasExtension (path : Path) (extension : String) : Bool :=
  match path.extension? with
  | none => false
  | some found => found.toList.map Char.toLower = extension.toList.map Char.toLower

/-- A text, read backwards, without the slashes and points at its end that do not count. -/
def withoutEnding : List Char → List Char
  | '/' :: rest => withoutEnding rest
  | '.' :: '/' :: rest => withoutEnding rest
  | characters => characters

/-- The path without its extension. The point in front of it stays, so the name of a file
without a stem of its own can become a step to the directory around. -/
def withoutExtension (path : Path) : Path :=
  ⟨String.ofList
    (path.text.toList.take
      (path.text.toList.length - ((path.extension?).getD "").toList.length))⟩

/-- The path with another extension, or with one when it has none. A path that names no file
without its extension gets none. -/
def withExtension (path : Path) (extension : String) : Path :=
  let bare := path.withoutExtension
  match bare.fileName? with
  | none => bare
  | some name =>
      let ended := (withoutEnding bare.text.toList.reverse).reverse
      let directory := ended.take (ended.length - name.toList.length)
      ⟨String.ofList directory ++ (stemAndExtension name).1 ++ "." ++ extension⟩

def inside (directory : Path) (relative : String) : Path :=
  if directory.text = "" ∨ directory.text.toList.getLast? = some '/' then
    ⟨directory.text ++ relative⟩
  else ⟨directory.text ++ "/" ++ relative⟩

end Path

end AccessWeave
