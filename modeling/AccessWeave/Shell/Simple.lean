import AccessWeave.Shell.Builtin.Jumps
import AccessWeave.Shell.Builtin.Names
import AccessWeave.Shell.Builtin.Places
import AccessWeave.Shell.Builtin.Printing
import AccessWeave.Shell.Heading
import AccessWeave.Shell.Process

/-!
Simple commands. The words are filled in, channels are led to where the command asks for, and
variables are set; then a builtin, a function or a program is run. Variables that are set in
front of a command are its own, unless it is a special builtin.
-/

namespace AccessWeave.Shell.Simple

/-- What a name leads to as a program: by itself when it has a slash, or in places. -/
def programPlace (state : State) (places : List String) (name : String) : Place :=
  if '/' ∈ name.toList then placeAt state.tree name else placeOf state.tree name places

/-- Runs a program, or complains that there is none. What is looked for and refused counts as not
found. -/
def runProgram (engine : Engine) (position : Position) (usesUsualPlaces : Bool) (name : String)
    (words : List String) : Action Unit := do
  let state ← get
  let places := if usesUsualPlaces then placesIn usualPlaces else state.places
  match programPlace state places name with
  | .found path program =>
      if path ≠ name then Builtin.track name path
      Process.start engine position program words
  | place =>
      Action.complain (name ++ ": " ++ place.complaint)
      Action.setStatus (if '/' ∈ name.toList then place.status else Place.notFound.status)

/-- Puts a program in place of the shell. Without a name only the channels change. -/
def replace (engine : Engine) (words : List String) : Action Nat := do
  match words with
  | [] => return 0
  | name :: _ =>
      let state ← get
      match programPlace state state.places name with
      | .found _ program => throw (.ends (← Process.become engine program words))
      | place =>
          Action.complain (name ++ ": " ++ place.complaint)
          Action.setStatus place.status
          throw .leaves

def evaluate (engine : Engine) (position : Position) (words : List String) : Action Nat := do
  if words.isEmpty then return 0
  engine.runText position.inner (String.intercalate " " words)

/-- The path of a script that a name without a slash leads to. -/
def scriptPath? (state : State) (name : String) : Option String :=
  if '/' ∈ name.toList then some name
  else (state.places.map fun place => pathIn place name).find? fun path =>
    state.tree.isFile ⟨Text.ofOctets path⟩

def readScript (path : String) : Action Source := do
  let state ← get
  match state.tree.lookup ⟨Text.ofOctets path⟩ with
  | .ok entry =>
      let bytes := (entry.bytes?).getD []
      return { state.source (Text.octetsOfBytes bytes) with isShown := true }
  | .error fault => Redirecting.cannotOpen false path (Redirecting.describe false fault)

/-- Runs the script in a file. Going back from there ends the script only. -/
def runFile (engine : Engine) (words : List String) : Action Nat := do
  match ← Builtin.withoutLetters words with
  | [] => return 0
  | name :: _ =>
      match scriptPath? (← get) name with
      | none => Action.fail (name ++ ": not found")
      | some path =>
          let source ← readScript path
          Action.withCommandName (some path) do
            try engine.script .plain source
            catch interruption =>
              if interruption = .returns then return (← get).status
              throw interruption

def builtin (engine : Engine) (position : Position) (name : String) (words : List String) :
    Action Nat :=
  match name with
  | "." => runFile engine words
  | ":" => return 0
  | "[" => Builtin.judge name words
  | "alias" => Builtin.aliases words
  | "bg" => Builtin.resume words
  | "break" => Builtin.jump .breaks words
  | "cd" => Builtin.changeDirectory words
  | "chdir" => Builtin.changeDirectory words
  | "command" => Builtin.describeCommand words
  | "continue" => Builtin.jump .continues words
  | "echo" => Builtin.echo words
  | "eval" => evaluate engine position words
  | "exec" => replace engine words
  | "exit" => Builtin.leave words
  | "export" => Builtin.mark name ⟨true, false⟩ words
  | "false" => return 1
  | "fg" => Builtin.resume words
  | "getopts" => Builtin.getOption words
  | "hash" => Builtin.hash words
  | "jobs" => Builtin.jobs words
  | "kill" => Builtin.kill words
  | "local" => Builtin.localVariables words
  | "printf" => Builtin.print words
  | "pwd" => Builtin.printDirectory words
  | "read" => Builtin.read words
  | "readonly" => Builtin.mark name ⟨false, true⟩ words
  | "return" => Builtin.returnFrom words
  | "set" => Builtin.set words
  | "shift" => Builtin.shift words
  | "test" => Builtin.judge name words
  | "times" => Builtin.printTimes
  | "trap" => Builtin.trap words
  | "type" => Builtin.types words
  | "ulimit" => Builtin.limits words
  | "umask" => Builtin.fileMask words
  | "unalias" => Builtin.unalias words
  | "unset" => Builtin.unset words
  | "wait" => Builtin.wait words
  | _ => return 0

/-- Gives variables back what they were before the innermost frames, down to so many. -/
def unwind (depth : Nat) : Action Unit := do
  let count := (← get).locals.length - depth
  (List.range count).forM fun _ => Builtin.restoreLocals

/-- Runs a builtin. An error in one that is not special goes no further. -/
def runBuiltin (engine : Engine) (position : Position) (isSpecial : Bool) (name : String)
    (words : List String) : Action Unit := do
  let depth := (← get).locals.length
  try
    Action.withCommandName (some name) do
      modify fun state => { state with hasLostOutput := false }
      let status ← builtin engine position name words
      if (← get).hasLostOutput then
        Action.complain (name ++ ": I/O error")
        modify fun state => { state with hasLostOutput := false }
        Action.setStatus (status ||| 1)
      else Action.setStatus status
  catch interruption =>
    if interruption = .fails && !isSpecial then unwind depth
    else throw interruption

def callLimit : Nat := 1000

def callFunction (engine : Engine) (position : Position) (body : Command)
    (words : List String) : Action Unit := do
  if callLimit ≤ (← get).calls then
    Action.fail ("Maximum function recursion depth (" ++ toString callLimit ++ ") reached")
  Action.keeping
    (fun state => (state.parameters, state.optionPlace, state.loops, state.calls))
    (fun (parameters, optionPlace, loops, calls) state =>
      { state with parameters, optionPlace, loops, calls })
    do
      modify fun state =>
        { state with
          parameters := words, optionPlace := ⟨1, none⟩, loops := 0, calls := state.calls + 1 }
      try engine.run position.inner (some body)
      catch interruption => if interruption = .returns then return else throw interruption

/-- Sets a variable in front of a command; the assignment as it is shown. -/
def assign (engine : Engine) (summons : Summons) (word : Word) : Action (List String) := do
  match Word.assignment? word with
  | none => return []
  | some (name, value) =>
      let text ← (Process.filler engine).text .assigned value
      let shown := name ++ "=" ++ text
      if summons.isScoped then Builtin.makeLocal .exported shown
      else
        let isForProgram := summons.isReplacement && 1 < summons.words.length
        Action.setVariableWith (if isForProgram then .exported else .none) name (some text)
      return [shown]

def assignAll (engine : Engine) (summons : Summons) : List Word → Action (List String)
  | [] => return []
  | word :: words => do
      let first ← assign engine summons word
      return first ++ (← assignAll engine summons words)

/-- The text in front of a command that is shown. One that cannot be filled in is shown as it
is. -/
def traceHead (engine : Engine) : Action String := do
  let text := ((← get).value? "PS4").getD ""
  Action.keeping (fun state => (state.options, state.status))
    (fun (options, status) state => { state with options, status })
    do
      modify fun state => state.setOption "xtrace" false
      try
        match readFilledText.run ((← get).source text) with
        | .error fault => Action.fail fault.message
        | .ok (word, _) => (Process.filler engine).text .text word
      catch interruption => if interruption = .fails then return text else throw interruption

def trace (engine : Engine) (number : Option Nat) (words : List String) : Action Unit := do
  if (← get).hasOption "xtrace" then
    let line := (← traceHead engine) ++ String.intercalate " " words ++ "\n"
    if let some number := number then
      let _ ← Action.writeOpened number line

def execute (engine : Engine) (position : Position) (summons : Summons) : Action Unit := do
  match summons.words with
  | [] => modify fun state => { state with status := state.substitutionStatus }
  | name :: words =>
      match summons.meaning with
      | .builtin => runBuiltin engine position summons.isSpecial name words
      | .function body => callFunction engine position body words
      | .program => runProgram engine position summons.usesUsualPlaces name (name :: words)

def inFrame (isScoped : Bool) (action : Action Unit) : Action Unit := do
  let depth := (← get).locals.length
  if isScoped then modify fun state => { state with locals := .empty :: state.locals }
  try
    action
    unwind depth
  catch interruption =>
    if interruption.isJump || interruption = .returns then unwind depth
    throw interruption

def run (engine : Engine) (position : Position) (line : Nat) (assignments words : List Word)
    (redirections : List Redirection) : Action Unit := do
  modify fun state => { state with line, substitutionStatus := 0 }
  let filler := Process.filler engine
  let summons ← Summons.ofWords filler words
  inFrame summons.isScoped do
    let errors := (← get).channel? 2
    let targets ← Redirecting.targets filler redirections
    Redirecting.keepingChannels (if summons.isReplacement then [] else targets) do
      if ← Redirecting.leadSafely filler targets then
        let assigned ← assignAll engine summons assignments
        trace engine errors (assigned ++ summons.remarks ++ summons.words)
        execute engine position summons
      else if summons.isSpecial then throw .fails

end AccessWeave.Shell.Simple
