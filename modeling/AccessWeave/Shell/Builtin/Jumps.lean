import AccessWeave.Shell.Builtin.Variables

/-!
Builtins that jump: out of loops, out of a function, and out of the shell.
-/

namespace AccessWeave.Shell.Builtin

/-- Goes on after loops or with their next round. Loops that are not there do not count. -/
def jump (interruption : Nat → Interruption) (words : List String) : Action Nat := do
  let count ← match words with
    | [] => pure 1
    | word :: _ => do
        let count ← countOf word
        if count = 0 then Action.illegalNumber word
        pure count
  let loops := min count (← get).loops
  if loops = 0 then return 0
  modify fun state => { state with status := 0 }
  throw (interruption loops)

def wantedStatus (status : Nat) : List String → Action Nat
  | [] => return status
  | word :: _ => countOf word

def returnFrom (words : List String) : Action Nat := do
  let status ← wantedStatus (← get).status words
  modify fun state => { state with status }
  throw .returns

/-- Ends the shell. Without a status, what is done because of a signal leaves the one before. -/
def leave (words : List String) : Action Nat := do
  let state ← get
  let status ← wantedStatus (state.trapStatus.getD state.status) words
  modify fun state => { state with status }
  throw .leaves

end AccessWeave.Shell.Builtin
