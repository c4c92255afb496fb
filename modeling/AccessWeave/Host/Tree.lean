import AccessWeave.Host.Fault
import AccessWeave.Host.Path
import AccessWeave.Text.Bytes

/-!
A tree of files and directories, and the working directory. A path is looked up step by
step, and every step but the last has to lead to a directory; a slash or a point at the end
asks for a directory as well. A link holds a path, which is followed from the directory that the
link stands in, and only so many links are followed on the way to one place. Names and paths are
bounded in length, and a name that is too long is refused where it is looked up, there or not.
Writing makes a file or replaces its bytes, and never makes a directory. Where the system shows
its own state nothing can be made; apart from that everything may be read and written.

Devices look like files. The outputs of the command are among them: what is written there is
kept in the tree until the command has run.
-/

namespace AccessWeave

/-- The names on the way from the root. -/
abbrev Location := List String

inductive Device
  | nothing
  | full
  | terminal
  deriving DecidableEq, Repr

inductive Entry
  | file (bytes : List UInt8)
  | directory
  /-- A file that can be started. What it does goes by its name. -/
  | program (name : String)
  | device (device : Device)
  /-- An output of the command, and what has been written to it. -/
  | output (written : List UInt8)
  | link (target : Path)
  deriving DecidableEq, Repr

/-- The first bytes of a program, which tell it from other files. -/
def programBytes : List UInt8 := [0x7F, 0x45, 0x4C, 0x46, 2, 1, 1, 0]

def Entry.bytes? : Entry → Option (List UInt8)
  | file bytes => some bytes
  | program _ => some programBytes
  | device _ => some []
  | output _ => some []
  | _ => none

structure Tree where
  current : Location
  entries : List (Location × Entry)
  deriving DecidableEq, Repr

namespace Tree

/-- What is at a location. The root is always there. -/
def entryAt? (tree : Tree) (location : Location) : Option Entry :=
  if location = [] then some .directory
  else (tree.entries.find? fun entry => entry.1 = location).map Prod.snd

/-- The path that is held by a link at a location. -/
def linkAt? (tree : Tree) (location : Location) : Option Path :=
  match tree.entryAt? location with
  | some (.link target) => some target
  | _ => none

def put (tree : Tree) (location : Location) (entry : Entry) : Tree :=
  { tree with
    entries := (location, entry) :: tree.entries.filter fun other => other.1 ≠ location }

def nameLimit : Nat := 255

def pathLimit : Nat := 4095

/-- How many links are followed on the way to one place. -/
def linkLimit : Nat := 40

/-- Where a path starts that is given in a directory. -/
def startOf (directory : Location) (path : Path) : Location :=
  if path.isAbsolute then [] else directory

/-- What a step comes to in a directory. -/
inductive Turn
  | refused (fault : SystemFault)
  | place (location : Location)
  /-- The steps of a link, and where they start. -/
  | link (start : Location) (steps : List String)

/-- What a step comes to, whether anything is there or not. A name is refused where no directory
may be named. -/
def turn (tree : Tree) (refusing : Bool) (location : Location) (step : String) : Turn :=
  if step = "" ∨ step = "." then .place location
  else if step = ".." then .place location.dropLast
  else if refusing then .refused .isADirectory
  else if nameLimit < step.utf8ByteSize then .refused .nameTooLong
  else match tree.linkAt? (location ++ [step]) with
    | some target => .link (startOf location target) target.steps
    | none => .place (location ++ [step])

/-- Whether nothing but slashes is left of a path. -/
def endsInSlash (steps : List String) : Bool := steps ≠ [] && steps.all (· = "")

/-- Follows steps from a location, given how to go on from a link. A file that is to be filled
has no slash behind its name. -/
def followWith (tree : Tree) (filling : Bool)
    (onward : Location → List String → Except SystemFault Location) (location : Location) :
    List String → Except SystemFault Location
  | [] => .ok location
  | step :: steps =>
      match tree.entryAt? location with
      | none => .error .notFound
      | some .directory =>
          match tree.turn (filling && endsInSlash steps) location step with
          | .refused fault => .error fault
          | .place next => followWith tree filling onward next steps
          | .link start inner => onward start (inner ++ steps)
      | some _ => .error .notADirectory

/-- Follows steps from a location over as many links as are left. The location found need not
exist. -/
def follow (tree : Tree) (filling : Bool) :
    Nat → Location → List String → Except SystemFault Location
  | 0 => tree.followWith filling fun _ _ => .error .tooManyLinks
  | links + 1 => tree.followWith filling (follow tree filling links)

def origin (tree : Tree) (path : Path) : Location := startOf tree.current path

/-- The location that steps of a path lead to. The empty path leads nowhere, and a path that
is too long is refused before its first step. -/
def locateSteps (tree : Tree) (filling : Bool) (path : Path) (steps : List String) :
    Except SystemFault Location :=
  if path.text = "" then .error .notFound
  else if pathLimit < path.text.utf8ByteSize then .error .nameTooLong
  else tree.follow filling linkLimit (tree.origin path) steps

def locate (tree : Tree) (path : Path) : Except SystemFault Location :=
  tree.locateSteps false path path.steps

def lookup (tree : Tree) (path : Path) : Except SystemFault Entry :=
  match tree.locate path with
  | .error fault => .error fault
  | .ok location =>
      match tree.entryAt? location with
      | none => .error .notFound
      | some entry => .ok entry

def isFile (tree : Tree) (path : Path) : Bool :=
  match tree.lookup path with
  | .ok (.file _) => true
  | .ok (.program _) => true
  | _ => false

def isDirectory (tree : Tree) (path : Path) : Bool :=
  match tree.lookup path with
  | .ok .directory => true
  | _ => false

def holds (tree : Tree) (path : Path) : Bool := (tree.lookup path).toBool

def read (tree : Tree) (path : Path) : Except SystemFault (List UInt8) :=
  match tree.lookup path with
  | .error fault => .error fault
  | .ok (.device .terminal) => .error .noDevice
  | .ok entry =>
      match entry.bytes? with
      | none => .error .isADirectory
      | some bytes => .ok bytes

def readText (tree : Tree) (path : Path) : Except SystemFault String :=
  match tree.read path with
  | .error fault => .error fault
  | .ok bytes =>
      match Text.ofBytes bytes with
      | none => .error .invalidText
      | some text => .ok text

def ownDirectories : List (String × SystemFault) :=
  [("proc", .notFound), ("sys", .permissionDenied)]

/-- The location, if something is there or can be made there. -/
def makeable (tree : Tree) (location : Location) : Except SystemFault Location :=
  match tree.entryAt? location, location.head?.bind (fun name => ownDirectories.lookup name) with
  | none, some fault => .error fault
  | _, _ => .ok location

/-- The location at which a file of the given path is or would be made. -/
def locateFile (tree : Tree) (path : Path) : Except SystemFault Location :=
  match tree.locateSteps true path path.steps with
  | .error fault => .error fault
  | .ok location =>
      match tree.entryAt? location with
      | some .directory => .error .isADirectory
      | some (.device .terminal) => .error .noDevice
      | _ => tree.makeable location

/-- Gives the file at a location its bytes. An output takes them after those it has taken. -/
def store (tree : Tree) (location : Location) (bytes : List UInt8) : Tree :=
  match tree.entryAt? location with
  | some (.device _) => tree
  | some (.output written) => tree.put location (.output (written ++ bytes))
  | _ => tree.put location (.file bytes)

def write (tree : Tree) (path : Path) (bytes : List UInt8) : Except SystemFault Tree :=
  match tree.locateFile path with
  | .error fault => .error fault
  | .ok location =>
      if tree.entryAt? location = some (.device .full) ∧ bytes ≠ [] then .error .noSpace
      else .ok (tree.store location bytes)

/-- Copies a file. The target is emptied before the source is read, so a file copied onto
itself ends up empty. -/
def copy (tree : Tree) (source target : Path) : Except SystemFault Tree :=
  match tree.read source with
  | .error fault => .error fault
  | .ok _ =>
      match tree.write target [] with
      | .error fault => .error fault
      | .ok emptied =>
          match emptied.read source with
          | .error fault => .error fault
          | .ok bytes => emptied.write target bytes

/-- Makes a directory of a name in another one. What has the name already, a link that leads
nowhere included, is in the way. -/
def makeIn (tree : Tree) (around : Location) (name : String) : Except SystemFault Tree :=
  if name = "." ∨ name = ".." then .error .alreadyExists
  else if nameLimit < name.utf8ByteSize then .error .nameTooLong
  else match tree.entryAt? (around ++ [name]) with
    | some _ => .error .alreadyExists
    | none =>
        match tree.makeable (around ++ [name]) with
        | .error fault => .error fault
        | .ok location => .ok (tree.put location .directory)

/-- The steps of a path without the slashes at its end. -/
def trimmedSteps (path : Path) : List String :=
  (path.steps.reverse.dropWhile (· = "")).reverse

def makeDirectory (tree : Tree) (path : Path) : Except SystemFault Tree :=
  match tree.locateSteps false path ((trimmedSteps path).dropLast ++ ["."]) with
  | .error fault => .error fault
  | .ok around => tree.makeIn around ((trimmedSteps path).getLast?.getD ".")

/-- Makes the directory with the given components, given how to make its parent. -/
def makeWith (path : Path) (makeParent : Tree → Option SystemFault × Tree) (tree : Tree) :
    Option SystemFault × Tree :=
  match tree.makeDirectory path with
  | .ok made => (none, made)
  | .error .notFound =>
      match makeParent tree with
      | (some fault, made) => (some fault, made)
      | (none, made) =>
          match made.makeDirectory path with
          | .ok finished => (none, finished)
          | .error fault => (if made.isDirectory path then none else some fault, made)
  | .error fault => (if tree.isDirectory path then none else some fault, tree)

/-- Makes the directories of the components, given in reverse, from the outermost on. -/
def makeNested : List Component → Tree → Option SystemFault × Tree
  | [], tree => (none, tree)
  | last :: outer, tree =>
      makeWith (Path.ofComponents (last :: outer).reverse) (makeNested outer) tree

/-- Makes a directory and all that are missing around it. What has been made stays when a
later step fails. -/
def makeDirectories (tree : Tree) (path : Path) : Option SystemFault × Tree :=
  makeNested path.components.reverse tree

def names (tree : Tree) (location : Location) : List String :=
  tree.entries.filterMap fun (found, _) =>
    match location.isPrefixOf? found with
    | some [name] => some name
    | _ => none

def namesAt (tree : Tree) (directory : Path) : List String :=
  match tree.locate directory with
  | .error _ => []
  | .ok location => tree.names location

/-- The names on the way to whatever is below a directory, down to a depth, and is none itself.
Links to directories are followed. -/
def filesWithin (tree : Tree) : Nat → Path → List (List String)
  | 0, _ => []
  | depth + 1, directory =>
      (tree.namesAt directory).flatMap fun name =>
        if tree.isDirectory (directory.inside name) then
          (filesWithin tree depth (directory.inside name)).map (name :: ·)
        else [[name]]

/-- The names on the way to whatever is below a directory and is none itself. A path that is too
long leads to no directory, so the length of paths bounds the depth. -/
def filesBelow (tree : Tree) (directory : Path) : List (List String) :=
  tree.filesWithin pathLimit directory

def changedFiles (tree earlier : Tree) : List (Location × List UInt8) :=
  tree.entries.filterMap fun (location, entry) =>
    match entry with
    | .file bytes =>
        if earlier.entryAt? location = some (.file bytes) then none else some (location, bytes)
    | _ => none

end Tree

end AccessWeave
