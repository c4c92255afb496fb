import AccessWeave.Shell.Builtin.Names
import AccessWeave.Shell.Engine
import AccessWeave.Shell.Redirecting

/-!
Processes. A process inside the shell starts from a copy of its state and shares the world with
it. The shell goes on when the process has ended, or beside it: processes that are joined by
pipes and those in the background run side by side. Signals are received between commands. One
that ends the process does so at once; for others the shell does what it was told to do.
-/

namespace AccessWeave.Shell.Process

/-- Does what is to be done when a signal comes. The status stays what it was. -/
def react (engine : Engine) (signal : Nat) : Action Unit := do
  let state ← get
  match state.trap? signal with
  | none => return
  | some action =>
      if action = "" || signal ∈ state.passedOver then return
      let status := state.trapStatus.getD state.status
      modify fun state => { state with trapStatus := some status }
      let interruption ← Action.outcome (discard (engine.runText .plain action))
      modify fun later => { later with trapStatus := state.trapStatus }
      match interruption with
      | none => Action.setStatus status
      | some interruption =>
          if interruption.isJump then Action.setStatus status
          throw interruption

def receiveSignals (engine : Engine) : Action Unit := do
  let state ← get
  if state.world.sent.isEmpty then return
  Action.dieOfSignals
  let (signals, world) := state.world.receive state.process
  set { state with world }
  (List.range (Signal.greatest + 1)).forM fun signal =>
    if signal ∈ signals then react engine signal else return

/-- Does what is to be done at the end of a process. Only a status that is asked for there takes
the place of the one before. -/
def lastWord (engine : Engine) (action : String) : Action ExitStatus := do
  let status := (← get).status
  modify fun state =>
    { state with
      traps := state.traps.filter fun entry => entry.1 ≠ 0
      trapStatus := some status }
  match ← Action.outcome (discard (engine.runText .plain action)) with
  | some (.ends status) => return status
  | some .leaves | some .fails => return .exited ((← get).status % 256)
  | _ => return .exited (status % 256)

def conclude (engine : Engine) (action : Action Unit) : Action ExitStatus := do
  match ← Action.outcome action with
  | some (.ends status) => return status
  | _ =>
      let state ← get
      let action := (state.trap? 0).getD ""
      if action = "" then return .exited (state.status % 256)
      lastWord engine action

def statusAfter (result : Except Interruption ExitStatus) (state : State) : ExitStatus :=
  match result with
  | .ok status => status
  | .error (.ends status) => status
  | .error _ => .exited (state.status % 256)

/-- A state as a new process has it: what is done when signals come is forgotten, but those to be
passed over still are. -/
def child (state : State) : State :=
  { state with
    process := state.world.nextProcess
    parent := state.process
    world := state.world.begin
    traps := state.traps.filter fun entry => entry.2 = ""
    jobs := [] }

/-- The world after a process that a shell has waited for. The shell is told if it wants to know. -/
def worldAfter (state after : State) : World :=
  let left := after.world.closeFrom state.world.nextOpened state.held
  let left := (left.orphan after.process).forget [after.process]
  if (state.trap? Signal.childEnded).isSome then left.send state.process Signal.childEnded
  else left

/-- Runs an action in a new process, which starts from a changed copy of the state, and waits for
its end. -/
def apart (prepare : State → State) (action : Action ExitStatus) : Action ExitStatus := do
  let _ ← Builtin.makeRoom
  Action.giveWay
  action.elsewhere (fun state => prepare (child state)) fun state result after =>
    (statusAfter result after, { state with world := worldAfter state after })

/-- Starts a process beside the shell; its number. -/
def beside (prepare : State → State) (position : Position) (targets : List Target)
    (command : Option Command) : Action Nat := do
  let state ← get
  let started := prepare (child state)
  set { state with world := started.world }
  Action.pause (.started ⟨started, position, targets, command⟩)
  return started.process

def acknowledge (statuses : List ExitStatus) : Action Unit := do
  Action.dieOfSignals
  Builtin.notice
  statuses.forM Builtin.announce

def settle (status : ExitStatus) : Action Unit := do
  acknowledge [status]
  Action.setStatus (Builtin.statusOf status)

/-- What commands write, in a process of their own. Nothing more comes when nobody holds the
output open. Zero bytes are left out. -/
def capture (engine : Engine) (body : Option Command) : Action String := do
  if body.isNone then return ""
  let state ← get
  let (number, world) := state.world.add ⟨.text "", 0, false, true, false⟩
  set { state with world, kept := number :: state.kept }
  let status ← apart (fun child => { child.setChannel 1 (some number) with kept := state.kept })
    (conclude engine (engine.run .final body))
  Action.waitFirmly fun state => !state.world.heldByOthers.contains number
  let text := (← get).world.heldText number
  acknowledge [status]
  modify fun later =>
    { later with
      kept := state.kept
      world := later.world.closeFrom number (later.channels.map Prod.snd ++ state.kept)
      substitutionStatus := Builtin.statusOf status }
  return String.ofList (text.toList.filter (· ≠ '\x00'))

def filler (engine : Engine) : Filler := ⟨engine.fill, capture engine⟩

/-- A state in the background: what interrupts the shell is passed over. -/
def inBackground (state : State) : State :=
  { state with passedOver := Signal.interrupts ++ state.passedOver }

def withoutInput (state : State) : State :=
  let (number, world) := state.world.add ⟨.nothing, 0, true, false, false⟩
  { state with world }.setChannel 0 (some number)

/-- Notes where the program is that a command begins with, if its name is written as it is. -/
def trackHead (command : Command) : Action Unit := do
  match command with
  | .simple _ _ (word :: _) _ =>
      let name := (Word.plainText? word).getD ""
      if isName name.toList then discard (Builtin.trackMeaning name)
  | _ => return

/-- Starts processes that are joined by pipes, each with what its state is changed to; their
numbers. No more files than some are kept open. -/
def startJoined (position : Position) (kept : List Nat) (prepare : State → State)
    (input : Option Nat) : List Command → Action (List Nat)
  | [] => return []
  | command :: commands => do
      trackHead command
      let reading (child : State) : State :=
        let child := { child with kept }
        if input.isSome then child.setChannel 0 input else child
      if commands.isEmpty then
        return [← beside (prepare ∘ reading) position [] (some command)]
      let state ← get
      let (reader, writer, world) := state.world.addPipe
      set { state with world, kept := reader :: writer :: state.kept }
      let first ← beside (fun child => (prepare (reading child)).setChannel 1 (some writer))
        position [] (some command)
      modify fun state => { state with kept := reader :: kept }
      return first :: (← startJoined position kept inBackground (some reader) commands)

/-- Waits for processes, in at most so many steps, and takes notice of their ends in order; how
each has ended. -/
def waitForEnds : Nat → List Nat → Action (List (Nat × ExitStatus))
  | 0, _ => return []
  | steps + 1, processes => do
      if processes.isEmpty then return []
      Action.waitFirmly fun state =>
        state.world.ended.any fun ending => ending.process ∈ processes
      let endings := (Builtin.endedOf (← get)).filter fun ending => ending.process ∈ processes
      let gone := endings.map EndedProcess.process
      modify fun state => { state with world := state.world.forget gone }
      acknowledge (endings.map EndedProcess.status)
      let later ← waitForEnds steps (processes.filter (· ∉ gone))
      return endings.map (fun ending => (ending.process, ending.status)) ++ later

/-- Runs commands that are joined by pipes, and waits for all of them. The last one speaks for
them. -/
def pipeline (position : Position) (commands : List Command) : Action Unit := do
  let _ ← Builtin.makeRoom
  let before ← get
  let processes ← startJoined position.alone before.kept id none commands
  modify fun state => { state with kept := before.kept }
  let statuses ← waitForEnds processes.length processes
  modify (Redirecting.tidy before.world.nextOpened)
  let status := processes.getLast?.bind fun process => statuses.lookup process
  Action.setStatus (Builtin.statusOf (status.getD (.exited 0)))

/-- Runs a command beside the shell. Commands that are joined by pipes are a job together. The
shell itself fills in where the channels of the command are led. -/
def background (engine : Engine) (command : Command) : Action Unit := do
  let targets ← match command with
    | .redirected _ _ redirections => Redirecting.targets (filler engine) redirections
    | _ => pure []
  let number ← Builtin.makeRoom
  let kept := (← get).kept
  let prepare := withoutInput ∘ inBackground
  let processes ← match command with
    | .pipeline commands => startJoined .final kept prepare none commands
    | .redirected _ body _ => pure [← beside prepare .final targets body]
    | _ => pure [← beside prepare .final [] (some command)]
  modify fun state => { state with kept }
  Builtin.noteJob number processes
  Action.setStatus 0

/-- Runs commands in a process of their own, unless the shell ends with them. -/
def subshell (engine : Engine) (position : Position) (body : Option Command)
    (redirections : List Redirection) : Action Unit := do
  let targets ← Redirecting.targets (filler engine) redirections
  let action : Action Unit := do
    Redirecting.leadAll (filler engine) false targets
    engine.run position.alone body
  if position.isFinal && !(← get).hasTraps then
    action
    throw .leaves
  settle (← apart id (conclude engine action))

def lengthsGiven (state : State) (words : List String) : List Nat :=
  words.map String.length
    ++ state.environment.map fun (name, value) => name.length + 1 + value.length

def refusedStatus : Nat := 126

/-- Puts a program in place of the shell. The shell ends also if that cannot be done. -/
def become (engine : Engine) (name : String) (words : List String) : Action ExitStatus := do
  if canBeGiven (lengthsGiven (← get) words) then engine.program name words
  else
    Action.complain (words.head?.getD name ++ ": Argument list too long")
    Action.setStatus refusedStatus
    throw .leaves

def start (engine : Engine) (position : Position) (name : String) (words : List String) :
    Action Unit := do
  if position.isFinal && !(← get).hasTraps then
    throw (.ends (← become engine name words))
  settle (← apart id (become engine name words))

end AccessWeave.Shell.Process
