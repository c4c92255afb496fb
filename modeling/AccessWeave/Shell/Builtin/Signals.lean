import AccessWeave.Shell.Builtin.Jobs

/-!
Builtins that send signals and that tell what is done when signals come.
-/

namespace AccessWeave.Shell.Builtin

def signalName (signal : Nat) : String :=
  if signal = 0 then "EXIT"
  else if signal = 16 then "16"
  else match Signal.name? signal with
    | some name => name
    | none =>
        if signal < firstNameless then toString signal
        else if signal = firstNameless then "RTMIN"
        else if signal = Signal.greatest then "RTMAX"
        else if signal < 50 then "RTMIN+" ++ toString (signal - firstNameless)
        else "RTMAX-" ++ toString (Signal.greatest - signal)

/-- The signal that a word names or numbers, from a number on. -/
def signal? (least : Nat) (word : String) : Option Nat :=
  if word ≠ "" && word.toList.all Char.isDigit then
    word.toNat?.filter fun number => number ≤ Signal.greatest
  else (List.range' least (Signal.greatest + 1 - least)).find? fun signal =>
    (signalName signal).toUpper = word.toUpper

def killUsage : String :=
  "Usage: kill [-s sigspec | -signum | -sigspec] [pid | job]... or\nkill -l [exitstatus]"

/-- The process that a word tells. Jobs and processes with a sign in front are asked for as groups,
and there are none. -/
def targetOf (word : String) : Action (Option Nat) := do
  match word.toList with
  | '%' :: _ => do
      let _ ← jobOf (some word)
      return none
  | '-' :: rest => do
      let _ ← countOf (String.ofList rest)
      return none
  | _ => return some (← countOf word)

/-- Sends a signal to a process, which receives it when it is its turn. -/
def sendTo (signal : Nat) (target : String) : Action Bool := do
  let process? ← targetOf target
  let state ← get
  match process?.filter fun process => process ∈ state.world.present with
  | none =>
      Action.complain "No such process\n"
      return false
  | some process =>
      if signal ≠ 0 then
        modify fun state => { state with world := state.world.send process signal }
      return true

def sendToAll (signal : Nat) : List String → Action Nat
  | [] => return 0
  | target :: targets => do
      let isSent ← sendTo signal target
      let later ← sendToAll signal targets
      return if isSent then later else 1

def listSignals : List String → Action Nat
  | [] => do
      let names := (List.range' 1 Signal.greatest).map signalName
      Action.emit (String.join (("0" :: names).map fun name => name ++ "\n"))
      return 0
  | word :: _ => do
      let number ← countOf word
      let signal := if 128 < number then number - 128 else number
      if 0 < signal && signal ≤ Signal.greatest then
        Action.emit (signalName signal ++ "\n")
        return 0
      else Action.fail ("invalid signal number or exit status: " ++ word)

def killLetters : List (Char × Option String) → Action (Option Nat × Bool)
  | [] => return (none, false)
  | (_, none) :: rest => do
      let (signal, _) ← killLetters rest
      return (signal, true)
  | (_, some word) :: rest => do
      match signal? 1 word with
      | none => Action.fail ("invalid signal number or name: " ++ word)
      | some signal =>
          let (later, isList) ← killLetters rest
          return (some (later.getD signal), isList)

def kill (words : List String) : Action Nat := do
  let first := (words.head?.getD "").toList
  if words.isEmpty then Action.fail killUsage
  let (signal, isList, targets) ←
    if first.head? = some '-' then
      match signal? 1 (String.ofList first.tail) with
      | some signal => pure (some signal, false, words.tail)
      | none => do
          let (given, targets) ← letters [('l', false), ('s', true)] words
          let (signal, isList) ← killLetters given
          pure (signal, isList, targets)
    else pure (none, false, words)
  if isList then
    if signal.isSome then Action.fail killUsage
    listSignals targets
  else
    if targets.isEmpty then Action.fail killUsage
    sendToAll (signal.getD Signal.terminate) targets

def showTraps : Action Unit := do
  let state ← get
  let lines := (List.range (Signal.greatest + 1)).filterMap fun signal =>
    (state.trap? signal).map fun action =>
      "trap -- " ++ quoted action ++ " " ++ signalName signal ++ "\n"
  Action.emit (String.join lines)

def setTraps (action : Option String) : List String → Action Nat
  | [] => return 0
  | word :: words => do
      match signal? 0 word with
      | none =>
          Action.write 2 ("trap: " ++ word ++ ": bad trap\n")
          return 1
      | some signal =>
          modify fun state =>
            let others := state.traps.filter fun entry => entry.1 ≠ signal
            { state with
              traps := match action with
                | some action => (signal, action) :: others
                | none => others }
          setTraps action words

/-- Whether a word is the number of a signal, so that it is no action. -/
def isSignalNumber (word : String) : Bool :=
  word.toList.all Char.isDigit && (signal? 0 word).isSome

def trap (words : List String) : Action Nat := do
  match ← withoutLetters words with
  | [] =>
      showTraps
      return 0
  | [signal] => setTraps none [signal]
  | action :: signals =>
      if isSignalNumber action then setTraps none (action :: signals)
      else setTraps (if action = "-" then none else some action) signals

end AccessWeave.Shell.Builtin
