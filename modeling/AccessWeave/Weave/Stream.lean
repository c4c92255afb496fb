import AccessWeave.Weave.Guard
import AccessWeave.Weave.Rule

/-!
Weaving one rule into one stream. The stream gets at most one guard, which runs before every
matching call. Nothing is taken out, changed or moved. When the first match lies on every
path to the last, which in a stream means that no label lies between them, the guard goes
right before the first match; otherwise it goes to the start.
-/

namespace AccessWeave

def callPositions (stream : List Instruction) (signature : Signature) : List Nat :=
  stream.zipIdx.filterMap fun (instruction, index) =>
    if instruction.isCallTo signature then some index else none

/-- Whether no label lies after the first index and at or before the last. -/
def dominates (stream : List Instruction) (first last : Nat) : Bool :=
  !((stream.drop (first + 1)).take (last - first)).any Instruction.isLabel

def insertGuard (stream : List Instruction) (operation : Operation) (index : Nat) :
    List Instruction :=
  stream.take index ++ Instruction.guardSequence operation ++ stream.drop index

structure WovenStream where
  instructions : List Instruction
  modified : Bool
  /-- Whether the rule needs nothing more in this method. -/
  applied : Bool
  deriving DecidableEq

def weaveStream (stream : List Instruction) (rule : Rule) (applied : Bool) : WovenStream :=
  if applied then ⟨stream, false, true⟩
  else
    let positions := callPositions stream rule.signature
    match positions.head?, positions.getLast? with
    | some first, some last =>
        let firstDominates := dominates stream first last
        if protects stream rule.operation first firstDominates then ⟨stream, false, true⟩
        else
          let index :=
            if rule.placement = .beforeCall ∧ firstDominates then first else 0
          ⟨insertGuard stream rule.operation index, true, true⟩
    | _, _ => ⟨stream, false, false⟩

def weaveEach (applied : Bool) : List Rule → List Instruction → List WovenStream
  | [], _ => []
  | rule :: rules, stream =>
      let woven := weaveStream stream rule applied
      woven :: weaveEach applied rules woven.instructions

end AccessWeave
