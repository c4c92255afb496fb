import AccessWeave.Class.ClassFile
import AccessWeave.Weave.Stream

/-!
Weaving a list of rules into one body. Every inserted guard needs one more slot of the
operand stack, and only one guard runs at a time, so the declared stack grows by one when
anything was inserted. When it cannot grow, the body is left with the guards inserted and
the stack as it was, and the error says so.
-/

namespace AccessWeave

inductive WeaveError
  | stackOverflow (maxStack : UInt16)
  deriving DecidableEq, Repr

def WeaveError.message : WeaveError → String
  | .stackOverflow maxStack =>
      "no operand-stack room for the guard call (max_stack is " ++ toString maxStack.toNat ++ ")"

/-- Which rules have been applied in the method at hand, by their index. -/
structure WeaveContext where
  applied : List Bool
  deriving DecidableEq, Repr

namespace WeaveContext

def ofSize (rules : Nat) : WeaveContext := ⟨List.replicate rules false⟩

def reset (context : WeaveContext) : WeaveContext := ⟨context.applied.map fun _ => false⟩

def isApplied (context : WeaveContext) (index : Nat) : Bool :=
  context.applied.getD index false

def mark (context : WeaveContext) (index : Nat) (flag : Bool) : WeaveContext :=
  let missing := index + 1 - context.applied.length
  ⟨(context.applied ++ List.replicate missing false).set index flag⟩

end WeaveContext

structure WovenBody where
  /-- The rules whose guard was inserted, or why the body cannot be used. -/
  result : Except WeaveError (List Rule)
  body : Body
  context : WeaveContext

def finalStream (stream : List Instruction) (steps : List WovenStream) : List Instruction :=
  (steps.getLast?.map WovenStream.instructions).getD stream

def insertedRules (rules : List Rule) (steps : List WovenStream) : List Rule :=
  (rules.zip steps).filterMap fun (rule, step) => if step.modified then some rule else none

structure FlaggedWeaving where
  steps : List WovenStream
  context : WeaveContext

/-- Weaves the rules in turn, each by its own flag in the context, from an index on. -/
def weaveFlagged (context : WeaveContext) (index : Nat) :
    List Rule → List Instruction → FlaggedWeaving
  | [], _ => ⟨[], context⟩
  | rule :: rules, stream =>
      let woven := weaveStream stream rule (context.isApplied index)
      let later :=
        weaveFlagged (context.mark index woven.applied) (index + 1) rules woven.instructions
      ⟨woven :: later.steps, later.context⟩

/-- Weaves the rules into a body, forgetting what the context holds from before. -/
def weaveBody (body : Body) (rules : List Rule) (context : WeaveContext) : WovenBody :=
  let weaving := weaveFlagged context.reset 0 rules body.instructions
  let inserted := insertedRules rules weaving.steps
  let woven := { body with instructions := finalStream body.instructions weaving.steps }
  if inserted.isEmpty then ⟨.ok inserted, woven, weaving.context⟩
  else if body.maxStack.toNat + 1 < UInt16.size then
    ⟨.ok inserted, { woven with maxStack := body.maxStack + 1 }, weaving.context⟩
  else ⟨.error (.stackOverflow body.maxStack), woven, weaving.context⟩

def weaveMethodBody (body : Body) (rules : List Rule) : WovenBody :=
  weaveBody body rules (WeaveContext.ofSize rules.length)

end AccessWeave
