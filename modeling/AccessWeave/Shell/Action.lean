import AccessWeave.Shell.State

/-!
What a shell does. An action changes the state and can be interrupted: by a jump in the script,
by an error, or by the end of the shell. It also pauses now and then, so that other processes
can go on; then only the world can be another one when it goes on itself.

The course of an action is a tree: it ends, or it pauses and goes on from any world that it may
find. What comes after an action is put at the ends of its course.
-/

namespace AccessWeave.Shell

inductive Interruption
  | fails
  | leaves
  | breaks (loops : Nat)
  | continues (loops : Nat)
  | returns
  /-- The process is over, without a last word. -/
  | ends (status : ExitStatus)
  deriving DecidableEq, Repr

structure Position where
  /-- Whether the status is asked for, so that a failure does not end the shell. -/
  isTested : Bool
  /-- Whether the process ends with the command. -/
  isFinal : Bool
  deriving DecidableEq, Repr

namespace Position

def plain : Position := ⟨false, false⟩

def tested : Position := ⟨true, false⟩

def final : Position := ⟨false, true⟩

def inner (position : Position) : Position := { position with isFinal := false }

def alone (position : Position) : Position := { position with isFinal := true }

end Position

structure Child where
  state : State
  position : Position
  /-- Where its channels are led first. -/
  targets : List Target
  command : Option Command

inductive Pause
  | turn
  | waits
  | blocked
  | started (child : Child)

/-- The course of an action. When it pauses, it tells which open files it holds open. -/
inductive Course (Result : Type) where
  | ended (result : Except Interruption Result) (state : State)
  | paused (pause : Pause) (held : List Nat) (world : World) (resume : World → Course Result)

namespace Course

/-- A course with another one after each of its ends. -/
def followed {First Second : Type} (next : Except Interruption First → State → Course Second) :
    Course First → Course Second
  | ended result state => next result state
  | paused pause held world resume =>
      paused pause held world fun world => (resume world).followed next

/-- What comes after an end when only a result can be gone on with. -/
def onward {First Second : Type} (next : First → State → Course Second) :
    Except Interruption First → State → Course Second
  | .ok result, state => next result state
  | .error interruption, state => ended (.error interruption) state

/-- What comes after an end when only an interruption is dealt with. -/
def rescued {Result : Type} (handler : Interruption → State → Course Result) :
    Except Interruption Result → State → Course Result
  | .ok result, state => ended (.ok result) state
  | .error interruption, state => handler interruption state

def holding {Result : Type} (numbers : List Nat) : Course Result → Course Result
  | ended result state => ended result state
  | paused pause held world resume =>
      paused pause (numbers ++ held) world fun world => (resume world).holding numbers

end Course

def Action (Result : Type) : Type := State → Course Result

namespace Action

@[always_inline, inline]
def finish {Result : Type} (result : Result) : Action Result := fun state =>
  .ended (.ok result) state

@[always_inline, inline]
def andThen {First Second : Type} (action : Action First) (next : First → Action Second) :
    Action Second := fun state =>
  match action state with
  | .ended (.ok result) state => next result state
  | .ended (.error interruption) state => .ended (.error interruption) state
  | .paused pause held world resume =>
      .paused pause held world fun world => (resume world).followed (Course.onward next)

@[always_inline, inline]
def orElseDo {Result : Type} (action : Action Result) (handler : Interruption → Action Result) :
    Action Result := fun state =>
  match action state with
  | .ended (.ok result) state => .ended (.ok result) state
  | .ended (.error interruption) state => handler interruption state
  | .paused pause held world resume =>
      .paused pause held world fun world => (resume world).followed (Course.rescued handler)

end Action

instance : Monad Action where
  pure := Action.finish
  bind := Action.andThen

instance : MonadStateOf State Action where
  get := fun state => .ended (.ok state) state
  set state := fun _ => .ended (.ok ()) state
  modifyGet change := fun state => .ended (.ok (change state).1) (change state).2

instance : MonadExceptOf Interruption Action where
  throw interruption := fun state => .ended (.error interruption) state
  tryCatch := Action.orElseDo

namespace Action

def pause (reason : Pause) : Action Unit := fun state =>
  .paused reason state.held state.world fun world => .ended (.ok ()) { state with world }

/-- Runs an action from another state, while the files that are held open now stay so. What it
comes to is turned into a result and a state. -/
def elsewhere {Inner Result : Type} (enter : State → State)
    (leave : State → Except Interruption Inner → State → Result × State) (action : Action Inner) :
    Action Result := fun state =>
  ((action (enter state)).holding state.held).followed fun result after =>
    let (outcome, left) := leave state result after
    .ended (.ok outcome) left

/-- Runs an action and gives part of the state its value back, also when it is interrupted. -/
def keeping {Part Result : Type} (part : State → Part) (restore : Part → State → State)
    (action : Action Result) : Action Result := do
  let kept := part (← get)
  try
    let result ← action
    modify (restore kept)
    return result
  catch interruption =>
    modify (restore kept)
    throw interruption

def withCommandName {Result : Type} (name : Option String) (action : Action Result) :
    Action Result := do
  keeping State.commandName (fun kept state => { state with commandName := kept }) do
    modify fun state => { state with commandName := name }
    action

def outcome (action : Action Unit) : Action (Option Interruption) := do
  try
    action
    return none
  catch interruption => return some interruption

def setStatus (status : Nat) : Action Unit := modify fun state => { state with status }

def setLine (line : Nat) : Action Unit := modify fun state => { state with line }

end Action

end AccessWeave.Shell
