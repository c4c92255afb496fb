import AccessWeave.Shell.Waiting

/-!
What a shell writes: the output of its builtins, and complaints, which tell where in the script
they come from.
-/

namespace AccessWeave.Shell

namespace Action

def tryWrite (channel : Nat) (text : String) : Action Bool := do
  match (← get).channel? channel with
  | none => return text.isEmpty
  | some number => writeOpened number text

def write (channel : Nat) (text : String) : Action Unit := do
  let _ ← tryWrite channel text
  return

def emit (text : String) : Action Unit := do
  if (← tryWrite 1 text) = false then
    modify fun state => { state with hasLostOutput := true }

def complaintHead : Action String := do
  let state ← get
  let head := state.name ++ ": " ++ toString state.line ++ ": "
  return match state.commandName with
    | some command => head ++ command ++ ": "
    | none => head

def complain (complaint : String) : Action Unit := do
  write 2 ((← complaintHead) ++ complaint ++ "\n")

def failWith {Result : Type} (status : Nat) (complaint : String) : Action Result := do
  complain complaint
  modify fun state => { state with status }
  throw .fails

def fail {Result : Type} (complaint : String) : Action Result := failWith 2 complaint

def illegalNumber {Result : Type} (text : String) : Action Result :=
  fail ("Illegal number: " ++ text)

end Action

end AccessWeave.Shell
