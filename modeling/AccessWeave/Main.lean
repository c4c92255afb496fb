import AccessWeave.Command.Run
import AccessWeave.Host.Isolated

/-!
The command. It reads the part of the file system that the request is about, runs the
request on it, and makes the changes that the outcome holds. Programs and devices are those of
the isolated host, and no address can be reached.
-/

namespace AccessWeave

def absoluteText (location : Location) : String := "/" ++ String.intercalate "/" location

/-- Whether a location is one at which the system shows devices or its own state. Nothing there
is read or written. -/
def isShownBySystem (location : Location) : Bool :=
  location.head?.any fun name => name ∈ ["dev", "proc", "sys"]

/-- Where a link on disk leads, as a path. The name of nothing stands for a link that leads
nowhere. -/
def linkedPath (location : Location) : IO Path := do
  let here ← IO.currentDir
  let path := here / absoluteText location
  if ← path.pathExists then return ⟨(← IO.FS.realPath path).toString⟩
  return ⟨"\x00"⟩

def entryOnDisk (location : Location) : IO (Option Entry) := do
  let here ← IO.currentDir
  let path := here / absoluteText location
  match ← path.symlinkMetadata.toBaseIO with
  | .error _ => return none
  | .ok found =>
      match found.type with
      | .dir => return some .directory
      | .symlink => return some (.link (← linkedPath location))
      | .file => return some (.file (← IO.FS.readBinFile path).data.toList)
      | .other => return some (.device .nothing)

mutual

/-- Notes what is at a location, and for a link also what it leads to. -/
partial def noteEntry (tree : Tree) (location : Location) : IO Tree := do
  if isShownBySystem location ∨ (tree.entryAt? location).isSome then return tree
  match ← entryOnDisk location with
  | none => return tree
  | some (.link target) => notePath (tree.put location (.link target)) target
  | some entry => return tree.put location entry

partial def noteBelow (tree : Tree) (location : Location) : IO Tree := do
  if isShownBySystem location ∨ tree.entryAt? location ≠ some .directory then return tree
  let here ← IO.currentDir
  let path := here / absoluteText location
  if ← path.isDir then
    let mut noted := tree
    for child in ← path.readDir do
      let inner := location ++ [child.fileName]
      noted ← noteEntry noted inner
      noted ← noteBelow noted inner
    return noted
  return tree

/-- Notes what the steps of a path lead through, and everything below its end. -/
partial def notePath (tree : Tree) (path : Path) : IO Tree := do
  let mut noted := tree
  let mut location := tree.origin path
  for step in path.steps do
    if step = ".." then
      location := location.dropLast
    else if step ≠ "" ∧ step ≠ "." then
      location := location ++ [step]
      noted ← noteEntry noted location
      if let some (.link target) := noted.entryAt? location then
        location := (noted.origin target) ++ target.steps.filter (· ≠ "")
  noteBelow noted location

end

def startingTree : IO Tree := do
  let here ← IO.currentDir
  let current := (Path.mk here.toString).steps.filter (· ≠ "")
  let outer := (List.range current.length).map fun count => current.take (count + 1)
  return outer.foldl (fun tree location => tree.put location .directory) (.standard current)

/-- The environment variables, in the order in which the system keeps them. One that is no text
is nothing. -/
def environmentVariables : IO (List (Option (String × String))) := do
  let bytes ← IO.FS.readBinFile "/proc/self/environ"
  let entries := (bytes.data.toList.splitOn 0).filter (· ≠ [])
  return entries.map fun entry => do
    let text ← Text.ofBytes entry
    let (name, value) ← Text.cutOnce (· = '=') text.toList
    some (String.ofList name, String.ofList value)

/-- Whether a command line comes to asking for the environment: it does so once the file of its
policy has been read. -/
def asksForEnvironment (words : List String) (tree : Tree) : Bool :=
  match (Invocation.ofWords? words).map Invocation.request with
  | some (.checkConfig source _) => source.readsEnvironment && (source.fileProperties tree).toBool
  | some (.simulate source _ _) => source.readsEnvironment && (source.fileProperties tree).toBool
  | _ => false

/-- The status of a command that breaks off. -/
def brokenOff : UInt32 := 101

def writeChanges (before after : Tree) : IO Unit := do
  for (location, entry) in after.entries.reverse do
    if entry = .directory ∧ before.entryAt? location = none then
      IO.FS.createDirAll (absoluteText location)
  for (location, bytes) in after.changedFiles before do
    if !isShownBySystem location then
      IO.FS.writeBinFile (absoluteText location) ⟨bytes.toArray⟩

def treeOf (words : List String) (environment : List (String × String)) : IO Tree := do
  let start ← startingTree
  match Invocation.ofWords? words with
  | none => return start
  | some invocation =>
      let named ← invocation.request.paths.foldlM notePath start
      match invocation.request.bootstrapPath? environment named with
      | none => return named
      | some path => notePath named path

def runProcess (words : List String) : IO UInt32 := do
  let entries ← environmentVariables
  let environment := entries.filterMap id
  let tree ← treeOf words environment
  if entries.contains none && asksForEnvironment words tree then
    (← IO.getStderr).putStrLn "a variable of the environment is no text"
    return brokenOff
  let outcome := runCommandLine words (.isolated environment) environment tree
  writeChanges tree outcome.tree
  let output ← IO.getStdout
  output.write ⟨outcome.output.toArray⟩
  output.flush
  let errors ← IO.getStderr
  errors.write ⟨outcome.errors.toArray⟩
  return outcome.status.toUInt32

end AccessWeave

def main (words : List String) : IO UInt32 := AccessWeave.runProcess words
