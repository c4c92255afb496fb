import AccessWeave.Shell.Simple

/-!
Running commands and scripts. Every command leaves its status behind. Signals are received before
and after it; after a failure that nothing asked about the shell ends, if it was told to. A loop
takes the jumps that are meant for it and lets the others go on.
-/

namespace AccessWeave.Shell.Running

inductive Turn
  | ended
  | nextRound
  | out
  deriving DecidableEq, Repr

/-- Runs part of a loop. A jump that is meant for more loops than this one goes on. -/
def part (action : Action Unit) : Action Turn := do
  try
    action
    return .ended
  catch interruption =>
    match interruption with
    | .breaks 1 => return .out
    | .continues 1 => return .nextRound
    | .breaks loops => throw (.breaks (loops - 1))
    | .continues loops => throw (.continues (loops - 1))
    | _ => throw interruption

def inLoop (action : Action Unit) : Action Unit :=
  Action.keeping State.loops (fun loops state => { state with loops }) do
    modify fun state => { state with loops := state.loops + 1 }
    action

def repeated (engine : Engine) (position : Position) (isUntil : Bool)
    (test body : Option Command) : Nat → Nat → Action Unit
  | 0, _ => throw (.ends (.signaled Signal.kill))
  | rounds + 1, status => do
      match ← part (engine.run .tested test) with
      | .out => Action.setStatus status
      | .nextRound => repeated engine position isUntil test body rounds status
      | .ended =>
          if decide ((← get).status = 0) = isUntil then Action.setStatus status
          else match ← part (engine.run position.inner body) with
            | .out => return
            | _ => repeated engine position isUntil test body rounds (← get).status

def forEach (engine : Engine) (position : Position) (name : String) (body : Option Command) :
    List String → Action Unit
  | [] => return
  | text :: texts => do
      Action.setVariable name text
      match ← part (engine.run position.inner body) with
      | .out => return
      | _ => forEach engine position name body texts

def fields (filler : Filler) : List Word → Action (List String)
  | [] => return []
  | word :: words => do
      let first ← filler.fields word
      return first ++ (← fields filler words)

def fitsOne (filler : Filler) (text : String) : List Word → Action Bool
  | [] => return false
  | word :: words => do
      if Pattern.fits (← filler.pattern word) text.toList then return true
      fitsOne filler text words

def choose (engine : Engine) (position : Position) (text : String) :
    List (List Word × Option Command) → Action Unit
  | [] => Action.setStatus 0
  | (patterns, body) :: cases => do
      if ← fitsOne (Process.filler engine) text patterns then
        match body with
        | none => Action.setStatus 0
        | some _ => engine.run position body
      else choose engine position text cases

def sequence (engine : Engine) (position : Position) : List Command → Action Unit
  | [] => return
  | [last] => engine.run position (some last)
  | first :: others => do
      engine.run position.inner (some first)
      sequence engine position others

def leaveAfterFailure (position : Position) : Action Unit := do
  if !position.isTested && (← get).hasOption "errexit" then throw .leaves

def redirected (engine : Engine) (position : Position) (command : Option Command)
    (redirections : List Redirection) : Action Unit := do
  let filler := Process.filler engine
  let targets ← Redirecting.targets filler redirections
  Redirecting.keepingChannels targets do
    if ← Redirecting.leadSafely filler targets then engine.run position.inner command
    else leaveAfterFailure position

def perform (engine : Engine) (position : Position) : Command → Action Unit
  | .simple line assignments words redirections =>
      Simple.run engine position line assignments words redirections
  | .pipeline commands => Process.pipeline position commands
  | .background line command => do
      Action.setLine line
      Process.background engine command
  | .negated command => do
      engine.run .tested (some command)
      Action.setStatus (if (← get).status = 0 then 1 else 0)
  | .both first second => do
      engine.run .tested (some first)
      if (← get).status = 0 then engine.run position (some second)
  | .either first second => do
      engine.run .tested (some first)
      if (← get).status ≠ 0 then engine.run position (some second)
  | .sequence commands => sequence engine position commands
  | .conditional test onSuccess onFailure => do
      engine.run .tested test
      if (← get).status = 0 then engine.run position onSuccess
      else if onFailure.isSome then engine.run position onFailure
      else Action.setStatus 0
  | .repeated isUntil test body =>
      inLoop (repeated engine position isUntil test body Action.patience 0)
  | .forEach line name words body => do
      Action.setLine line
      let texts ← fields (Process.filler engine) words
      if texts.isEmpty then Action.setStatus 0
      else inLoop (forEach engine position name body texts)
  | .choice line subject cases => do
      Action.setLine line
      let text ← (Process.filler engine).text .single subject
      choose engine position text cases
  | .redirected line command redirections => do
      Action.setLine line
      redirected engine position command redirections
  | .subshell line body redirections => do
      Action.setLine line
      Process.subshell engine position body redirections
  | .function _ name body => modify fun state =>
      { state with
        status := 0
        functions := (name, body) :: state.functions.filter fun entry => entry.1 ≠ name }

/-- Whether a failure of the command itself can end the shell. -/
def isChecked : Command → Bool
  | .simple .. => true
  | .pipeline .. => true
  | .background .. => true
  | .subshell .. => true
  | _ => false

/-- Runs a command, unless commands are only to be read. -/
def command (engine : Engine) (position : Position) (command : Option Command) :
    Action Unit := do
  match command with
  | none => return
  | some command =>
      if (← get).hasOption "noexec" then return
      Action.takeTurn
      Process.receiveSignals engine
      perform engine position command
      let failed := isChecked command && (← get).status ≠ 0
      Process.receiveSignals engine
      if failed then leaveAfterFailure position

def showLines (source : Source) (count : Nat) : Action Unit := do
  if source.isShown && (← get).hasOption "verbose" then
    Action.write 2 (String.ofList (source.rest.take count))

/-- How many characters lines take up, each with its end. -/
def lengthOfLines : Nat → List Char → Nat
  | _, [] => 0
  | 0, _ => 0
  | lines + 1, character :: rest =>
      1 + if character = '\n' then lengthOfLines lines rest else lengthOfLines (lines + 1) rest

/-- Reads and runs a script line by line, in at most so many steps, after commands with some
status. -/
def lines (engine : Engine) (position : Position) : Nat → Source → Nat → Action Nat
  | 0, _, status => return status
  | steps + 1, source, status => do
      let state ← get
      let source :=
        { source with
          aliases := state.aliases, nextDocument := state.nextDocument, documents := [] }
      match readLine.run source with
      | .error fault =>
          showLines source (lengthOfLines (fault.line + 1 - source.line) source.rest)
          Action.setLine fault.line
          Action.fail fault.message
      | .ok (line, after) =>
          showLines source (source.rest.length - after.rest.length)
          modify fun state =>
            { state with
              documents := after.documents ++ state.documents
              nextDocument := after.nextDocument
              lineReached := after.line }
          match line with
          | .ended => return status
          | .commands none => lines engine position steps after status
          | .commands commands =>
              let isLast := match after.held with
                | some .endOfFile => true
                | _ => false
              engine.run (if isLast then position else position.inner) commands
              lines engine position steps after (← get).status

/-- Runs a script. One that has been read up to some line before is gone on with afterwards. -/
def script (engine : Engine) (position : Position) (source : Source) : Action Nat :=
  Action.keeping State.lineReached (fun lineReached state => { state with lineReached }) do
    lines engine position (source.rest.length + 2) source 0

end AccessWeave.Shell.Running
