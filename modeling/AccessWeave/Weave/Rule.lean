import AccessWeave.Ascending
import AccessWeave.Class.Instruction

/-!
Weaving rules. A rule says which calls are guarded, by which operation's guard, and where the
guard goes. Rules are applied in the order of their list.
-/

namespace AccessWeave

inductive Placement
  /-- Before the first call, when every path to a later call passes through the first; at
  the start of the method otherwise. -/
  | beforeCall
  | methodEntry
  deriving DecidableEq, Repr

namespace Placement

def all : List Placement := [beforeCall, methodEntry]

def word : Placement → String
  | beforeCall => "before_call"
  | methodEntry => "method_entry"

def ofWord? (word : String) : Option Placement :=
  all.find? fun placement => placement.word = word

end Placement

structure Rule where
  operation : Operation
  signature : Signature
  placement : Placement
  deriving DecidableEq, Repr

namespace Rule

def forOperation (placement : Placement) (operation : Operation) : Rule :=
  { operation, signature := operation.signature, placement }

def placed (placement : Placement) : List Rule :=
  Operation.all.map (forOperation placement)

def standard : List Rule := placed .beforeCall

def runtimeCallers (rules : List Rule) : List String :=
  ascendingTexts (rules.flatMap fun rule => rule.operation.runtimeCallers)

end Rule

end AccessWeave
