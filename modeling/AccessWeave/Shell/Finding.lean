import AccessWeave.Shell.Commands
import AccessWeave.Shell.State

/-!
What a command's name stands for: a function, a builtin, or a program in one of the places
where programs are looked for. A file that cannot be started is passed over, but it is the
reason given when nothing else is found.
-/

namespace AccessWeave.Shell

def regularBuiltins : List String :=
  ["[", "alias", "bg", "cd", "chdir", "command", "echo", "false", "fg", "getopts", "hash",
   "jobs", "kill", "printf", "pwd", "read", "test", "true", "type", "ulimit", "umask",
   "unalias", "wait"]

def isBuiltin (name : String) : Bool := name ∈ specialBuiltins || name ∈ regularBuiltins

def assigningBuiltins : List String := ["alias", "export", "local", "readonly"]

inductive Place
  /-- The path of a program that has a name of its own. -/
  | found (path program : String)
  | notFound
  /-- Something is there that cannot be started. -/
  | refused (fault : SystemFault)
  deriving DecidableEq, Repr

namespace Place

def complaint : Place → String
  | refused .nameTooLong => "File name too long"
  | refused _ => "Permission denied"
  | _ => "not found"

def status : Place → Nat
  | refused .nameTooLong => 127
  | refused _ => 126
  | _ => 127

end Place

def usualPlaces : String :=
  "/usr/local/sbin:/usr/local/bin:/usr/sbin:/usr/bin:/sbin:/bin"

def placesIn (text : String) : List String :=
  (text.toList.splitOn ':').map String.ofList

def pathIn (place name : String) : String := if place = "" then name else place ++ "/" ++ name

def placeAt (tree : Tree) (path : String) : Place :=
  match tree.lookup ⟨Text.ofOctets path⟩ with
  | .ok (.program program) => .found path program
  | .ok _ => .refused .permissionDenied
  | .error .permissionDenied => .refused .permissionDenied
  | .error .nameTooLong => .refused .nameTooLong
  | .error _ => .notFound

/-- Looks for a program in places. The last of those that refuse to is the reason given. -/
def placeOf (tree : Tree) (name : String) : List String → Place
  | [] => .notFound
  | place :: places =>
      match placeAt tree (pathIn place name) with
      | .refused fault =>
          match placeOf tree name places with
          | .notFound => .refused fault
          | later => later
      | .found path program => .found path program
      | .notFound => placeOf tree name places

inductive Meaning
  | builtin
  | function (body : Command)
  /-- A program, which is looked for when it is started. -/
  | program

/-- What a name stands for, functions aside if so told. -/
def State.meaning (state : State) (skipsFunctions : Bool) (name : String) : Meaning :=
  if '/' ∈ name.toList then .program
  else match if skipsFunctions then none else state.functions.lookup name with
    | some body => .function body
    | none => if isBuiltin name then .builtin else .program

def State.places (state : State) : List String := placesIn ((state.value? "PATH").getD "")

end AccessWeave.Shell
