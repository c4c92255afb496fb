import AccessWeave.Host.Standard
import AccessWeave.Shell.Filling

/-!
Leading channels somewhere else. The words of all redirections are filled in first; then each
redirection opens its file or copies another channel, one after the other, so that a complaint
about one goes where those before it lead. The texts of documents are filled in when their turn
comes.
-/

namespace AccessWeave.Shell

namespace Redirecting

/-- Complains of a word that tells no channel, as if it had just been read. -/
def noChannel : Action Target := do
  modify fun state => { state with line := state.lineReached }
  Action.fail "Syntax error: Bad fd number"

def ofWord (filler : Filler) (channel : Nat) (word : Word) : Action Target := do
  match ((← filler.fields word).head?.getD "").toList with
  | ['-'] => return .closed channel
  | [digit] =>
      if digit.isDigit then return .copied channel (digit.toNat - '0'.toNat)
      else noChannel
  | _ => noChannel

def target (filler : Filler) : Redirection → Action Target
  | .file channel opening path => do
      return .file channel opening (← filler.text .single path)
  | .copied channel source => return .copied channel source
  | .closed channel => return .closed channel
  | .copiedByWord channel word => ofWord filler channel word
  | .document channel isFilled number => return .document channel isFilled number

def targets (filler : Filler) : List Redirection → Action (List Target)
  | [] => return []
  | redirection :: redirections => do
      let first ← target filler redirection
      return first :: (← targets filler redirections)

def makes (opening : Opening) : Bool := opening ≠ .read

def describe (isMade : Bool) : SystemFault → String
  | .notFound => if isMade then "Directory nonexistent" else "No such file"
  | .notADirectory => if isMade then "Directory nonexistent" else "No such file"
  | .permissionDenied => "Permission denied"
  | .isADirectory => "Is a directory"
  | .nameTooLong => "File name too long"
  | .tooManyLinks => "Too many levels of symbolic links"
  | .alreadyExists => "File exists"
  | .noDevice => "No such device or address"
  | fault => fault.message

def cannotOpen {Result : Type} (isMade : Bool) (path reason : String) : Action Result :=
  Action.fail ("cannot " ++ (if isMade then "create " else "open ") ++ path ++ ": " ++ reason)

def channelAt? (location : Location) : Option Nat :=
  match channelDirectory.isPrefixOf? location with
  | some [name] => if name.toList.all Char.isDigit then name.toNat? else none
  | _ => none

/-- Opens what is at a location, and makes a file where there is none and one is asked for. -/
def openAt (opening : Opening) (location : Location) : Action Nat := do
  let state ← get
  let entry := state.world.tree.entryAt? location
  let empties := opening = .write || opening = .overwrite
  let tree :=
    if entry.isNone || empties then state.world.tree.store location [] else state.world.tree
  let stream := match entry with
    | some (.device .full) => Stream.full
    | some (.device _) => .nothing
    | some .directory => .directory
    | _ => .file location
  let reads := opening = .read || opening = .readWrite
  let file : OpenFile := ⟨stream, 0, reads, opening ≠ .read, opening = .append⟩
  let (number, world) := { state.world with tree }.add file
  set { state with world }
  return number

/-- Opens a device that leads to a channel: the same file anew, or what the channel leads to. -/
def openChannel (opening : Opening) (channel : Nat) : Action (Except SystemFault Nat) := do
  let state ← get
  match state.channel? channel with
  | none => return .error .notFound
  | some number =>
      match (state.world.opened? number).map OpenFile.stream with
      | some (.file location) => return .ok (← openAt opening location)
      | _ => return .ok number

/-- The files as the shell sees them: among them what its channels lead to. -/
def treeOf (state : State) : Tree :=
  state.channels.foldl
    (fun tree (channel, _) =>
      if (tree.entryAt? (channelLocation channel)).isSome then tree
      else tree.put (channelLocation channel) (.device .nothing))
    state.tree

def locate (state : State) (opening : Opening) (path : String) :
    Except SystemFault Location :=
  let tree := treeOf state
  let path : Path := ⟨Text.ofOctets path⟩
  if opening = .read then
    match tree.locate path with
    | .error fault => .error fault
    | .ok location =>
        match tree.entryAt? location with
        | none => .error .notFound
        | some (.device .terminal) => .error .noDevice
        | some _ => .ok location
  else match tree.locateFile path with
    | .error fault => .error fault
    | .ok location =>
        if opening = .write && state.hasOption "noclobber" && tree.isFile path then
          .error .alreadyExists
        else .ok location

def tryOpen (opening : Opening) (path : String) : Action (Except SystemFault Nat) := do
  match locate (← get) opening path with
  | .error fault => return .error fault
  | .ok location =>
      match channelAt? location with
      | some channel => openChannel opening channel
      | none => return .ok (← openAt opening location)

def openPath (opening : Opening) (path : String) : Action Nat := do
  match ← tryOpen opening path with
  | .error fault => cannotOpen (makes opening) path (describe (makes opening) fault)
  | .ok number => return number

def openText (text : String) : Action Nat := do
  let state ← get
  let (number, world) := state.world.add ⟨.text text, 0, true, false, false⟩
  set { state with world }
  return number

def documentText (filler : Filler) (isFilled : Bool) (number : Nat) : Action String := do
  let word := ((← get).documents.lookup number).getD []
  if isFilled then filler.text .text word
  else return Word.literalText word

def setChannel (channel : Nat) (number : Option Nat) : Action Unit :=
  modify fun state => state.setChannel channel number

/-- Leads one channel to its target. A channel that is to be led back later is closed before it
becomes a copy. -/
def lead (filler : Filler) (isKept : Bool) : Target → Action Unit
  | .file channel opening path => do
      setChannel channel (some (← openPath opening path))
  | .copied channel source => do
      if channel = source then return
      match (← get).channel? source with
      | some number => setChannel channel (some number)
      | none =>
          if isKept then setChannel channel none
          Action.fail (toString source ++ ": Bad file descriptor")
  | .closed channel => setChannel channel none
  | .document channel isFilled number => do
      setChannel channel (some (← openText (← documentText filler isFilled number)))

def leadAll (filler : Filler) (isKept : Bool) (targets : List Target) : Action Unit :=
  targets.forM (lead filler isKept)

def leadSafely (filler : Filler) (targets : List Target) : Action Bool := do
  try
    leadAll filler true targets
    return true
  catch interruption =>
    if interruption = .fails then
      modify fun state => { state with status := 2 }
      return false
    throw interruption

def places (channels : List Nat) (state : State) : List (Nat × Option Nat) :=
  channels.map fun channel => (channel, state.channel? channel)

def leadBack (places : List (Nat × Option Nat)) (state : State) : State :=
  places.foldl (fun state (channel, number) => state.setChannel channel number) state

/-- Forgets open files from a number on, but for those that are still held open. -/
def tidy (number : Nat) (state : State) : State :=
  { state with world := state.world.closeFrom number state.held }

def keepingChannels {Result : Type} (targets : List Target) (action : Action Result) :
    Action Result :=
  let channels := targets.map Target.channel
  if channels.isEmpty then action
  else
    Action.keeping
      (fun state => (places channels state, state.kept, state.world.nextOpened))
      (fun (places, kept, number) state => tidy number (leadBack places { state with kept }))
      do
        modify fun state =>
          { state with kept := (places channels state).filterMap Prod.snd ++ state.kept }
        action

end Redirecting

end AccessWeave.Shell
