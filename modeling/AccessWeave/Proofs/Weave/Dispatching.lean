import AccessWeave.Proofs.Weave.Classes
import AccessWeave.Proofs.Weave.Methods

/-!
# Rules that may be skipped

A class tells by the owners of its calls which rules can find one. A rule that finds no call in a
body as it is at first finds none later: the guards of the other rules call nothing but the guard.
So leaving such rules out changes neither a stream nor a body, a method or a class, whether that
class can be woven or not. Rules for the calls of the guard itself are what this does not hold of.
-/

namespace AccessWeave

open Instruction (invoke)

theorem weave_stream_uncalled {rule : Rule} {stream : List Instruction}
    (unseen : invoke rule.signature ∉ stream) :
    weaveStream stream rule false = ⟨stream, false, false⟩ := by
  have nowhere := call_positions_nil_iff.mpr unseen
  simp [weaveStream, nowhere]

theorem mem_weave_stream_iff {signature : Signature} (foreign : signature ≠ guardEntry)
    (rule : Rule) (stream : List Instruction) :
    invoke signature ∈ (weaveStream stream rule false).instructions ↔
      invoke signature ∈ stream := by
  rcases weave_stream_cases rule stream with ⟨_, applied, step⟩ | ⟨_, index, step⟩
  · rw [step]
  · rw [step, insertGuard, mem_woven_iff _ _ rule.operation foreign, List.take_append_drop]

section Skipping

variable {kept : Rule → Bool} {rules : List Rule}

/-- Rules without a call in the stream can be left out, each wherever it stands in the list. -/
theorem weave_each_skipping {stream : List Instruction}
    (skipped : ∀ rule ∈ rules, kept rule = false →
      rule.signature ≠ guardEntry ∧ invoke rule.signature ∉ stream) :
    insertedRules (rules.filter kept) (weaveEach false (rules.filter kept) stream) =
        insertedRules rules (weaveEach false rules stream) ∧
      finalStream stream (weaveEach false (rules.filter kept) stream) =
        finalStream stream (weaveEach false rules stream) := by
  induction rules generalizing stream with
  | nil => exact ⟨rfl, rfl⟩
  | cons rule rules induction =>
      rw [List.forall_mem_cons] at skipped
      rcases skipped with ⟨first, others⟩
      cases tried : kept rule with
      | false =>
          have step := weave_stream_uncalled (first tried).2
          have rest := induction others
          rw [List.filter_cons_of_neg (by simp [tried]), weaveEach, final_stream_cons,
            inserted_rules_cons, step]
          exact rest
      | true =>
          have later : ∀ item ∈ rules, kept item = false → item.signature ≠ guardEntry ∧
              invoke item.signature ∉ (weaveStream stream rule false).instructions := by
            intro item member left
            rcases others item member left with ⟨foreign, unseen⟩
            exact ⟨foreign, mt (mem_weave_stream_iff foreign rule stream).mp unseen⟩
          rcases induction later with ⟨insertedSame, finalSame⟩
          rw [List.filter_cons_of_pos tried, weaveEach, weaveEach, final_stream_cons,
            final_stream_cons, inserted_rules_cons, inserted_rules_cons, insertedSame, finalSame]
          exact ⟨rfl, rfl⟩

theorem weave_method_body_skipping {body : Body}
    (skipped : ∀ rule ∈ rules, kept rule = false →
      rule.signature ≠ guardEntry ∧ invoke rule.signature ∉ body.instructions) :
    (weaveMethodBody body (rules.filter kept)).result = (weaveMethodBody body rules).result ∧
      (weaveMethodBody body (rules.filter kept)).body = (weaveMethodBody body rules).body := by
  rcases weave_each_skipping skipped with ⟨insertedSame, finalSame⟩
  simp only [weaveMethodBody, weaveBody, weave_flagged_reset, insertedSame, finalSame]
  split_ifs <;> exact ⟨rfl, rfl⟩

theorem method_skipping {method : Method}
    (skipped : ∀ body, method.body = some body → ∀ rule ∈ rules, kept rule = false →
      rule.signature ≠ guardEntry ∧ invoke rule.signature ∉ body.instructions) :
    method.outcome (rules.filter kept) = method.outcome rules ∧
      method.woven (rules.filter kept) = method.woven rules := by
  cases present : method.body with
  | none => simp [Method.outcome, Method.woven, present]
  | some body =>
      rcases weave_method_body_skipping (skipped body present) with ⟨result, left⟩
      simp [Method.outcome, Method.woven, present, result, left]

theorem weave_methods_skipping (context other : WeaveContext) {methods : List Method}
    (skipped : ∀ method ∈ methods, ∀ body, method.body = some body →
      ∀ rule ∈ rules, kept rule = false →
        rule.signature ≠ guardEntry ∧ invoke rule.signature ∉ body.instructions) :
    Transformer.weaveMethods (rules.filter kept) context methods =
      Transformer.weaveMethods rules other methods := by
  rw [Transformer.weave_methods_any_context rules other context]
  induction methods with
  | nil => rfl
  | cons method methods induction =>
      rw [List.forall_mem_cons] at skipped
      rcases method_skipping skipped.1 with ⟨outcomeSame, wovenSame⟩
      have sitesSame : method.sites (rules.filter kept) = method.sites rules := by
        rw [Method.sites, Method.sites, outcomeSame]
      rw [Transformer.weave_methods_cons, Transformer.weave_methods_cons, outcomeSame, wovenSame,
        sitesSame, induction skipped.2]

end Skipping

namespace Transformer

/-- A class is woven by the rules that are tried on it as it is by all of them. -/
theorem weave_class_by_all_rules (transformer : Transformer) (file : ClassFile)
    (foreign : ∀ rule ∈ transformer.rules, rule.signature ≠ guardEntry) (codec : Codec) :
    transformer.weaveClass file =
      (Transformer.mk transformer.rules codec .allRules).weaveClass file := by
  rcases transformer with ⟨rules, own, dispatch⟩
  cases dispatch with
  | allRules => rfl
  | referencedOwners =>
      let tried : Rule → Bool := fun rule => decide (rule.signature.owner ∈ file.callOwners)
      have uncalled : ∀ method ∈ file.methods, ∀ body, method.body = some body →
          ∀ rule ∈ rules, tried rule = false →
            rule.signature ≠ guardEntry ∧ invoke rule.signature ∉ body.instructions := by
        intro method inside body present rule member left
        refine ⟨foreign rule member, fun called => of_decide_eq_false left ?_⟩
        exact file.mem_call_owners inside present called
      have same := weave_methods_skipping (WeaveContext.ofSize (rules.filter tried).length)
        (WeaveContext.ofSize rules.length) uncalled
      have triedRules : applicableRules ⟨rules, own, .referencedOwners⟩ file =
          rules.filter tried := rfl
      rw [weaveClass, weaveClass, triedRules, same]
      rfl

/-- Which rules are tried on a class does not show: the report or the error is the same, and so
is what is left of the class, also after an error. -/
theorem dispatch_changes_nothing (rules : List Rule) (codec : Codec) (file : ClassFile)
    (foreign : ∀ rule ∈ rules, rule.signature ≠ guardEntry) :
    ((Transformer.mk rules codec .referencedOwners).weaveClass file).result =
        ((Transformer.mk rules codec .allRules).weaveClass file).result ∧
      ((Transformer.mk rules codec .referencedOwners).weaveClass file).file =
        ((Transformer.mk rules codec .allRules).weaveClass file).file := by
  rw [weave_class_by_all_rules ⟨rules, codec, .referencedOwners⟩ file foreign codec]
  exact ⟨rfl, rfl⟩

/-- A body that leaves the runtime and may hold so many operands. -/
def stoppingBody (maxStack : UInt16) : Body where
  maxStack := maxStack
  maxLocals := 0
  instructions :=
    [.plain 0x04 [], invoke Operation.runtimeExit.signature, .plain 0xb1 []]
  handlers := []
  frames := []

/-- A class with a method that has no slot left for a guard, between two that have one. -/
def crowdedClass : ClassFile where
  name := "app/Crowd"
  superName := some "java/lang/Object"
  methods :=
    [⟨"first", "()V", 0x0009, some (stoppingBody 2)⟩,
      ⟨"full", "()V", 0x0009, some (stoppingBody 65535)⟩,
      ⟨"last", "()V", 0x0009, some (stoppingBody 2)⟩]
  attributes := []

theorem dispatch_changes_nothing_for_crowded_class :
    (∀ rule ∈ Rule.standard, rule.signature ≠ guardEntry) ∧
      (Transformer.mk Rule.standard .binary .referencedOwners).applicableRules crowdedClass =
        [Rule.forOperation .beforeCall .runtimeExit] ∧
      ((Transformer.mk Rule.standard .binary .referencedOwners).weaveClass crowdedClass).result =
        .error (.weave "app/Crowd" "full()V" (.stackOverflow 65535)) ∧
      ((Transformer.mk Rule.standard .binary .referencedOwners).weaveClass crowdedClass).file =
        ((ofRules Rule.standard).weaveClass crowdedClass).file := by
  have foreign : ∀ rule ∈ Rule.standard, rule.signature ≠ guardEntry := by decide
  have failed : ((Transformer.mk Rule.standard .binary .allRules).weaveClass crowdedClass).result =
      .error (.weave "app/Crowd" "full()V" (.stackOverflow 65535)) := by decide +kernel
  rcases dispatch_changes_nothing Rule.standard .binary crowdedClass foreign with
    ⟨sameResult, sameFile⟩
  exact ⟨foreign, by decide, sameResult.trans failed, sameFile⟩

end Transformer

end AccessWeave
