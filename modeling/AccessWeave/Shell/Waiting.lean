import AccessWeave.Shell.Action

/-!
Waiting for other processes. A process that waits looks again whenever it is its turn. A signal
that ends the process ends the waiting too, and so does one that the shell was told to do
something about.
-/

namespace AccessWeave.Shell

namespace State

def isFatal (state : State) (signal : Nat) : Bool :=
  signal = Signal.kill
    || (Signal.endsProgram signal && signal ∉ state.passedOver && (state.trap? signal).isNone)

def isHandled (state : State) (signal : Nat) : Bool :=
  signal ∉ state.passedOver && (state.trap? signal).any (· ≠ "")

def waitingSignals (state : State) : List Nat := (state.world.receive state.process).1

end State

namespace Action

def dieOfSignals : Action Unit := do
  let state ← get
  if state.world.sent.isEmpty then return
  match state.waitingSignals.find? state.isFatal with
  | some signal => throw (.ends (.signaled signal))
  | none => return

def giveWay : Action Unit := do
  if (← get).world.isAlone then return
  pause .turn

/-- Counts a command. After some it is the turn of others. -/
def takeTurn : Action Unit := do
  let world := (← get).world
  if world.turn = 0 then pause .turn
  else modify fun state => { state with world := { world with turn := world.turn - 1 } }

def patience : Nat := 1000000000000

/-- Looks again, in at most so many turns, until something is so. A signal that the shell was
told to do something about ends the waiting; it is the answer. -/
def lookAgain (isSo : State → Bool) : Nat → Action (Option Nat)
  | 0 => throw (.ends (.signaled Signal.kill))
  | turns + 1 => do
      dieOfSignals
      let state ← get
      if isSo state then return none
      match state.waitingSignals.find? state.isHandled with
      | some signal => return some signal
      | none =>
          pause .blocked
          lookAgain isSo turns

/-- Waits until something is so, or for a signal that the shell was told to do something about. -/
def waitUntil (isSo : State → Bool) : Action (Option Nat) := do
  if isSo (← get) then return none
  pause .waits
  lookAgain isSo patience

def lookFirmly (isSo : State → Bool) : Nat → Action Unit
  | 0 => throw (.ends (.signaled Signal.kill))
  | turns + 1 => do
      if isSo (← get) then return
      pause .blocked
      lookFirmly isSo turns

/-- Waits until something is so, whatever signals come. -/
def waitFirmly (isSo : State → Bool) : Action Unit := do
  if isSo (← get) then return
  pause .waits
  lookFirmly isSo patience

end Action

namespace State

def hasEnd (state : State) (pipe : Nat) (isEnd : OpenFile → Bool) : Bool :=
  state.world.holdsEnd pipe isEnd state.world.heldByOthers

/-- Whether there is something to read of an open file, or nothing will come any more. -/
def isReadable (state : State) (number : Nat) : Bool :=
  match state.world.pipeOf? number with
  | none => true
  | some pipe => 0 < (state.world.pipeAt pipe).size || !state.hasEnd pipe OpenFile.writes

def isBroken (state : State) (pipe : Nat) : Bool :=
  !state.hasEnd pipe OpenFile.reads
    && !state.world.holdsEnd pipe OpenFile.reads state.held

/-- Whether something can be written to a pipe, or nobody can read it. -/
def isWritable (state : State) (pipe : Nat) : Bool :=
  0 < (state.world.pipeAt pipe).room || state.isBroken pipe

end State

namespace Action

/-- At most so many characters of what there is to read of an open file. There are none at the
end, and when a signal has come that the shell was told to do something about. -/
def available (number limit : Nat) : Action (List Char) := do
  match ← waitUntil fun state => state.isReadable number with
  | some _ => return []
  | none => return (← get).world.unread number limit

def advance (number count : Nat) : Action Unit :=
  modify fun state => { state with world := state.world.advance number count }

def partLength : Nat := 131072

def readParts (number : Nat) : Nat → Action (List (List Char))
  | 0 => return []
  | parts + 1 => do
      let part ← available number partLength
      if part.isEmpty then return []
      advance number part.length
      return part :: (← readParts number parts)

def readAll (number : Nat) : Action (List Char) := do
  return (← readParts number patience).flatten

/-- Writes a text to a pipe, in at most so many parts. When nobody can read it, the process is
sent a signal. -/
def writeParts (number pipe : Nat) : Nat → String → Action Bool
  | 0, _ => return false
  | parts + 1, text => do
      if text.isEmpty then return true
      match ← waitUntil fun state => state.isWritable pipe with
      | some _ => return false
      | none =>
          let state ← get
          if state.isBroken pipe then
            set { state with world := state.world.send state.process Signal.brokenPipe }
            dieOfSignals
            return false
          let room := (state.world.pipeAt pipe).room
          let fitting := if text.length ≤ room then text else (text.take room).toString
          match state.world.write? number fitting with
          | none => return false
          | some world =>
              set { state with world }
              if text.length ≤ room then return true
              writeParts number pipe parts (text.drop room).toString

def writeOpened (number : Nat) (text : String) : Action Bool := do
  let state ← get
  let writes := (state.world.opened? number).any OpenFile.writes
  match if writes then state.world.pipeOf? number else none with
  | some pipe => writeParts number pipe patience text
  | none =>
      match state.world.write? number text with
      | none => return text.isEmpty
      | some world =>
          set { state with world }
          return true

end Action

end AccessWeave.Shell
