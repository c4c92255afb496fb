import AccessWeave.Shell.Program.Concatenation
import AccessWeave.Shell.Running
import AccessWeave.Shell.Turns

/-!
Starting a shell. Its words are options, then the script and its parameters: a text, a file, or
what there is to read. The variables that a program is given are exported; a few others are
always there. Here everything that runs scripts is tied together.
-/

namespace AccessWeave.Shell

structure Surroundings where
  world : World
  process : Nat
  parent : Nat
  channels : List (Nat × Nat)
  directory : Location
  passedOver : List Nat
  mask : Nat
  environment : List (String × String)

namespace Surroundings

def firstMask : Nat := 18

/-- The surroundings of a shell that a program other than a shell has started. -/
def ofTree (environment : List (String × String)) (tree : Tree) : Surroundings where
  world := .ofTree tree
  process := World.firstProcess
  parent := World.firstProcess - 1
  channels := [(0, World.inputNumber), (1, World.outputNumber), (2, World.errorsNumber)]
  directory := tree.current
  passedOver := []
  mask := firstMask
  environment := environment.map fun (name, value) => (Text.octets name, Text.octets value)

/-- The surroundings of a shell that another one starts in place of itself. -/
def ofState (state : State) : Surroundings where
  world := state.world
  process := state.process
  parent := state.parent
  channels := state.channels
  directory := state.directory
  passedOver :=
    (state.traps.filterMap fun (signal, action) => if action = "" then some signal else none)
      ++ state.passedOver
  mask := state.mask
  environment := state.environment

def usualVariables : List (String × String) :=
  [("PATH", usualPlaces), ("PS1", "# "), ("PS2", "> "), ("PS4", "+ ")]

def ownVariables (surroundings : Surroundings) : List (String × String) :=
  [("IFS", " \t\n"), ("OPTIND", "1"), ("PPID", toString surroundings.parent)]

/-- The path of the working directory: the one given, if it leads there. -/
def directoryText (surroundings : Surroundings) : String :=
  let given := (surroundings.environment.lookup "PWD").getD ""
  let tree := { surroundings.world.tree with current := surroundings.directory }
  if given.toList.head? = some '/'
      && (tree.locate ⟨Text.ofOctets given⟩).toOption = some surroundings.directory then given
  else Builtin.absolutePath surroundings.directory

def bindings (surroundings : Surroundings) : List (String × Binding) :=
  let given := surroundings.environment.filter fun entry => isName entry.1.toList
  let imported := given.foldl
    (fun bindings (name, value) =>
      (name, (⟨some value, true, false⟩ : Binding)) :: bindings.filter fun entry => entry.1 ≠ name)
    []
  let isImported (name : String) : Bool := (imported.lookup name).isSome
  let own := surroundings.ownVariables.map fun (name, value) =>
    (name, (⟨some value, isImported name, false⟩ : Binding))
  let usual := (usualVariables.filter fun entry => !isImported entry.1).map
    fun (name, value) => (name, (⟨some value, false, false⟩ : Binding))
  let place := ("PWD", (⟨some surroundings.directoryText, true, false⟩ : Binding))
  let isSet (name : String) : Bool := name = "PWD" || (own.lookup name).isSome
  place :: own ++ usual ++ imported.filter fun entry => !isSet entry.1

def state (surroundings : Surroundings) (name : String) : State where
  world := surroundings.world
  name := name
  shell := surroundings.process
  process := surroundings.process
  parent := surroundings.parent
  channels := surroundings.channels
  kept := []
  directory := surroundings.directory
  directoryText := surroundings.directoryText
  bindings := surroundings.bindings
  functions := []
  aliases := []
  tracked := []
  parameters := []
  optionPlace := ⟨1, none⟩
  options := []
  status := 0
  substitutionStatus := 0
  lastBackground := none
  jobs := []
  traps := []
  passedOver := surroundings.passedOver
  line := 0
  lineReached := 1
  commandName := none
  hasLostOutput := false
  documents := []
  nextDocument := 0
  loops := 0
  locals := []
  calls := 0
  trapStatus := none
  mask := surroundings.mask

end Surroundings

namespace Start

def readOptions : Nat → Bool → List String → Action (Bool × List String)
  | 0, takesText, words => return (takesText, words)
  | _, takesText, [] => return (takesText, [])
  | steps + 1, takesText, word :: words => do
      let others (letters : List Char) : List Char :=
        letters.filter fun letter => letter ≠ 'c' && letter ≠ 'l'
      match word.toList with
      | ['-'] => return (takesText, words)
      | ['-', '-'] => return (takesText, words)
      | '-' :: letters =>
          let rest ← Builtin.setOptionLetters true (others letters) words
          readOptions steps (takesText || 'c' ∈ letters) rest
      | '+' :: letters =>
          let rest ← Builtin.setOptionLetters false (others letters) words
          readOptions steps (takesText || 'c' ∈ letters) rest
      | _ => return (takesText, word :: words)

def runInput (engine : Engine) : Action Unit := do
  let characters ← match (← get).channel? 0 with
    | none => pure []
    | some number => Action.readAll number
  let source := { (← get).source (String.ofList characters) with isShown := true }
  let _ ← engine.script .plain source

def shell (engine : Engine) (words : List String) : Action Unit := do
  let (takesText, rest) ← readOptions (words.length + 1) false words
  let readsInput := (← get).hasOption "stdin"
  if takesText then
    match rest with
    | [] => Action.fail "-c requires an argument"
    | text :: others =>
        if let name :: parameters := others then
          modify fun state => { state with name, parameters }
        let _ ← engine.runText .plain text
        if readsInput then runInput engine
  else
    match rest, readsInput with
    | file :: parameters, false =>
        let source ← Simple.readScript file
        modify fun state => { state with name := file, parameters }
        let _ ← engine.script .plain source
    | parameters, _ =>
        modify fun state => { state.setOption "stdin" true with parameters }
        runInput engine

/-- What the program of a name does, called by a word and with words after it. All but a few are
shells. -/
def act (engine : Engine) (name called : String) (words : List String) : Action Unit :=
  match name with
  | "true" => Action.setStatus 0
  | "false" => Action.setStatus 1
  | "cat" => do Action.setStatus (← Program.concatenate called words)
  | _ => shell engine words

def run (engine : Engine) (name called : String) (words : List String) : Action ExitStatus :=
  Process.conclude engine (act engine name called words)

/-- Runs a program in place of the shell. Of what the shell has, only the channels stay open. -/
def program (engine : Engine) (name : String) (words : List String) : Action ExitStatus := do
  let called := words.head?.getD name
  modify fun state => { state with kept := [] }
  (run engine name called words.tail).elsewhere
    (fun state => (Surroundings.ofState state).state called)
    fun state result after =>
      (Process.statusAfter result after, { state with world := after.world })

end Start

namespace Engine

/-- How deep commands, words, scripts and programs can stand in each other. -/
def depthLimit : Nat := 10000

/-- An engine for what stands in each other at most so deep. What stands deeper ends the
process. -/
def ofDepth : Nat → Engine
  | 0 =>
      { run := fun _ _ => throw (.ends (.signaled Signal.memoryFault))
        fill := fun _ _ => throw (.ends (.signaled Signal.memoryFault))
        script := fun _ _ => throw (.ends (.signaled Signal.memoryFault))
        program := fun _ _ => return .signaled Signal.memoryFault }
  | depth + 1 =>
      { run := fun position command => Running.command (ofDepth depth) position command
        fill := fun setting word => Filling.word (Process.filler (ofDepth depth)) setting word
        script := fun position source => Running.script (ofDepth depth) position source
        program := fun name words => Start.program (ofDepth depth) name words }

end Engine

/-- Runs the program of a name, called by words, as a process that no shell has started, and
what it leaves in the background. -/
def runProgram (environment : List (String × String)) (tree : Tree) (name : String)
    (words : List String) : ProgramRun × Tree :=
  let surroundings := Surroundings.ofTree environment tree
  let engine := Engine.ofDepth Engine.depthLimit
  let words := words.map Text.octets
  let called := words.head?.getD name
  let state := surroundings.state called
  let (status, world) := Turns.finish engine state (Start.run engine name called words.tail)
  ({ status
     output := Text.bytesOfOctets world.output
     errors := Text.bytesOfOctets world.errors },
    world.tree)

end AccessWeave.Shell
