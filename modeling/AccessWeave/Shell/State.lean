import AccessWeave.Shell.Grammar
import AccessWeave.Shell.World

/-!
The state of a shell: its variables and functions, its parameters and options, where its
channels lead, what it has in the background, and what it does when signals come. A shell that is
started inside another one begins with a copy of most of that; only the world is the same.
-/

namespace AccessWeave.Shell

structure Binding where
  /-- A variable can be marked before it has a value. -/
  value : Option String
  isExported : Bool
  isReadOnly : Bool
  deriving DecidableEq, Repr

/-- The place among the parameters where options are being looked for. -/
structure OptionPlace where
  index : Nat
  /-- How many characters of the one before it have been used, if some are left. -/
  offset : Option Nat
  deriving DecidableEq, Repr

/-- What is given back at the end of a function. -/
structure Locals where
  /-- Variables and what they were before. -/
  bindings : List (String × Option Binding)
  /-- The options that were set before, if they are local. -/
  options : Option (List String)
  deriving DecidableEq, Repr

def Locals.empty : Locals := ⟨[], none⟩

/-- Processes that were started together in the background. -/
structure Job where
  number : Nat
  /-- The processes in order. The last one speaks for the job. -/
  processes : List Nat
  /-- Those whose end the shell has noticed. -/
  statuses : List (Nat × ExitStatus)
  /-- Whether the shell has been asked to wait for the job, which makes it forgettable. -/
  isWaitedFor : Bool
  deriving DecidableEq, Repr

namespace Job

def process (job : Job) : Nat := job.processes.getLast?.getD 0

def status? (job : Job) : Option ExitStatus := job.statuses.lookup job.process

def isDone (job : Job) : Bool :=
  job.processes.all fun process => (job.statuses.lookup process).isSome

end Job

structure Tracked where
  path : String
  /-- Whether the working directory has changed since, so that it is looked for again. -/
  isOld : Bool
  deriving DecidableEq, Repr

structure State where
  world : World
  name : String
  /-- The number that the script knows the shell by. -/
  shell : Nat
  /-- The number of the process, which is another one inside the shell. -/
  process : Nat
  parent : Nat
  channels : List (Nat × Nat)
  /-- Open files that channels will lead to again, or that are meant for other processes. -/
  kept : List Nat
  directory : Location
  directoryText : String
  bindings : List (String × Binding)
  functions : List (String × Command)
  aliases : List (String × String)
  tracked : List (String × Tracked)
  parameters : List String
  optionPlace : OptionPlace
  options : List String
  status : Nat
  /-- The status of the last commands that stood in a word. -/
  substitutionStatus : Nat
  lastBackground : Option Nat
  jobs : List Job
  /-- What is done when a signal comes, or at the end for number zero. -/
  traps : List (Nat × String)
  /-- Signals that were to be passed over before the shell was started. -/
  passedOver : List Nat
  line : Nat
  /-- The line up to which the script has been read. -/
  lineReached : Nat
  commandName : Option String
  hasLostOutput : Bool
  documents : List (Nat × Word)
  nextDocument : Nat
  /-- How many loops are running in the same function. -/
  loops : Nat
  /-- For every command that is running and has variables of its own, what is given back. -/
  locals : List Locals
  calls : Nat
  /-- The status before what is done because of a signal or the end, while that is done. -/
  trapStatus : Option Nat
  mask : Nat

namespace State

def channel? (state : State) (channel : Nat) : Option Nat := state.channels.lookup channel

def setChannel (state : State) (channel : Nat) (number : Option Nat) : State :=
  let others := state.channels.filter fun entry => entry.1 ≠ channel
  { state with
    channels := match number with
      | some number => (channel, number) :: others
      | none => others }

def held (state : State) : List Nat := state.channels.map Prod.snd ++ state.kept

def hasOption (state : State) (option : String) : Bool := option ∈ state.options

def binding? (state : State) (name : String) : Option Binding := state.bindings.lookup name

def value? (state : State) (name : String) : Option String :=
  (state.binding? name).bind Binding.value

def putBinding (state : State) (name : String) (binding : Binding) : State :=
  { state with
    bindings := (name, binding) :: state.bindings.filter fun entry => entry.1 ≠ name }

def dropBinding (state : State) (name : String) : State :=
  { state with bindings := state.bindings.filter fun entry => entry.1 ≠ name }

def tree (state : State) : Tree := { state.world.tree with current := state.directory }

def environment (state : State) : List (String × String) :=
  state.bindings.filterMap fun (name, binding) =>
    if binding.isExported then binding.value.map fun value => (name, value) else none

def trap? (state : State) (signal : Nat) : Option String := state.traps.lookup signal

def separators (state : State) : List Char :=
  ((state.value? "IFS").getD " \t\n").toList

end State

def optionLetters : List (String × Option Char) :=
  [("errexit", some 'e'), ("noglob", some 'f'), ("ignoreeof", some 'I'),
   ("interactive", some 'i'), ("monitor", some 'm'), ("noexec", some 'n'), ("stdin", some 's'),
   ("xtrace", some 'x'), ("verbose", some 'v'), ("vi", some 'V'), ("emacs", some 'E'),
   ("noclobber", some 'C'), ("allexport", some 'a'), ("notify", some 'b'),
   ("nounset", some 'u'), ("privileged", some 'p'), ("nolog", none), ("debug", none)]

namespace State

/-- The letters of the options that are set, those of the last ones first. -/
def optionText (state : State) : String :=
  String.ofList (optionLetters.filterMap fun (option, letter) =>
    if state.hasOption option then letter else none).reverse

def setOption (state : State) (option : String) (isOn : Bool) : State :=
  let others := state.options.filter (· ≠ option)
  { state with options := if isOn then option :: others else others }

end State

end AccessWeave.Shell
