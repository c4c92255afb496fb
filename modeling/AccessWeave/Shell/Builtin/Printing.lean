import AccessWeave.Shell.Builtin.Letters
import AccessWeave.Shell.Condition
import AccessWeave.Shell.Format

/-!
Builtins that write texts, and the one that judges conditions.
-/

namespace AccessWeave.Shell.Builtin

def echo (words : List String) : Action Nat := do
  Action.emit (String.ofList (Format.echoed words))
  return 0

/-- Writes a form filled in with words. What could be filled in is written even when the form or
a word is wrong. -/
def print (words : List String) : Action Nat := do
  match ← withoutLetters words with
  | [] => Action.fail "usage: printf format [arg ...]"
  | form :: arguments =>
      let (printing, fault) := Format.filled form arguments
      printing.complaints.reverse.forM Action.complain
      Action.emit (String.ofList printing.written.reverse)
      match fault with
      | some complaint => Action.fail complaint
      | none => return if printing.complaints.isEmpty then 0 else 1

def judge (name : String) (words : List String) : Action Nat := do
  match Condition.judged (← get).tree name words with
  | .ok holds => return if holds then 0 else 1
  | .error complaint => Action.fail complaint

end AccessWeave.Shell.Builtin
