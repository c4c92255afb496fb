import AccessWeave.Shell.Builtin.Signals
import AccessWeave.Shell.Filling
import AccessWeave.Shell.Source

/-!
Commands contain words, words contain commands, and both can start scripts and programs, which
contain commands again. Whatever runs one of them is given an engine for all of them; in the end
the engine is made from itself, as deep as processes and commands may stand in each other.
-/

namespace AccessWeave.Shell

structure Engine where
  run : Position → Option Command → Action Unit
  fill : Setting → Word → Action (List Fragment)
  /-- Runs a script; its status, which is zero without commands. -/
  script : Position → Source → Action Nat
  /-- Runs a program that is known by a name, in place of the shell. -/
  program : String → List String → Action ExitStatus

def Interruption.isJump : Interruption → Bool
  | breaks _ => true
  | continues _ => true
  | _ => false

def State.source (state : State) (text : String) : Source :=
  .ofText text state.aliases state.nextDocument

/-- Whether something is done when a signal comes, or at the end. -/
def State.hasTraps (state : State) : Bool := state.traps.any fun entry => entry.2 ≠ ""

namespace Engine

def runText (engine : Engine) (position : Position) (text : String) : Action Nat := do
  engine.script position ((← get).source text)

end Engine

end AccessWeave.Shell
