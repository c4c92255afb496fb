import AccessWeave.Proofs.Weave.Weaving

/-!
# What any rule does to a body

Whether a rule puts a guard in is a question about the stream alone, and it does so exactly where
a call is unprotected. A list of rules puts in nothing exactly when none of its rules finds such a
call in the stream as it is at first. This is said for every rule, also for one that guards the
calls of the guard itself, of which nothing can be said about what is protected in the end.
-/

namespace AccessWeave

open Instruction (invoke guardSequence)

/-- Whether the stream has a call for the rule, and no guard in it protects the first one. -/
def Rule.Unprotected (rule : Rule) (stream : List Instruction) : Prop :=
  invoke rule.signature ∈ stream ∧
    ∀ first last, EndCalls rule.signature stream first last →
      protects stream rule.operation first (dominates stream first last) = false

theorem Rule.unprotected_iff {rule : Rule} {stream : List Instruction} {first last : Nat}
    (head : (callPositions stream rule.signature).head? = some first)
    (final : (callPositions stream rule.signature).getLast? = some last) :
    rule.Unprotected stream ↔
      protects stream rule.operation first (dominates stream first last) = false := by
  have ends := end_calls_of_positions head final
  constructor
  · exact fun unguarded => unguarded.2 first last ends
  · intro unguarded
    refine ⟨List.mem_of_getElem? ends.begins, fun start finish found => ?_⟩
    obtain ⟨foundHead, foundFinal⟩ := end_calls_iff.mp found
    rw [head] at foundHead
    rw [final] at foundFinal
    cases foundHead
    cases foundFinal
    exact unguarded

theorem weave_stream_cases (rule : Rule) (stream : List Instruction) :
    (¬rule.Unprotected stream ∧
      ∃ applied, weaveStream stream rule false = ⟨stream, false, applied⟩) ∨
    (rule.Unprotected stream ∧
      ∃ index, weaveStream stream rule false =
        ⟨insertGuard stream rule.operation index, true, true⟩) := by
  rcases weave_stream_inversion rule stream with
    ⟨unseen, step⟩ | ⟨first, last, head, final, ⟨guarded, step⟩ | ⟨unguarded, step⟩⟩
  · exact .inl ⟨fun unguarded => unseen unguarded.1, false, step⟩
  · left
    rw [rule.unprotected_iff head final, guarded]
    exact ⟨Bool.noConfusion, true, step⟩
  · exact .inr ⟨(rule.unprotected_iff head final).mpr unguarded, _, step⟩

/-- Guards put into a stream one after another, wherever each of them goes. -/
inductive Insertions : List Instruction → List Rule → List Instruction → Prop
  | none {stream : List Instruction} : Insertions stream [] stream
  | guard {stream final : List Instruction} {inserted : List Rule} (rule : Rule) (index : Nat)
      (rest : Insertions (insertGuard stream rule.operation index) inserted final) :
      Insertions stream (rule :: inserted) final

theorem weave_each_insertions (rules : List Rule) (stream : List Instruction) :
    Insertions stream (insertedRules rules (weaveEach false rules stream))
      (finalStream stream (weaveEach false rules stream)) := by
  induction rules generalizing stream with
  | nil => exact .none
  | cons rule rules induction =>
      rw [weaveEach, final_stream_cons, inserted_rules_cons]
      rcases weave_stream_cases rule stream with ⟨_, applied, step⟩ | ⟨_, index, step⟩
      · rw [step]
        exact induction stream
      · rw [step]
        exact .guard rule index (induction _)

theorem nothing_inserted_iff (rules : List Rule) (stream : List Instruction) :
    insertedRules rules (weaveEach false rules stream) = [] ↔
      ∀ rule ∈ rules, ¬rule.Unprotected stream := by
  induction rules with
  | nil => simp [weaveEach, insertedRules]
  | cons rule rules induction =>
      rw [weaveEach, inserted_rules_cons, List.forall_mem_cons]
      rcases weave_stream_cases rule stream with ⟨guarded, applied, step⟩ | ⟨unguarded, index, step⟩
      · rw [step, if_neg Bool.false_ne_true, induction]
        exact (and_iff_right guarded).symm
      · rw [step, if_pos rfl]
        constructor
        · intro nothing
          cases nothing
        · exact fun each => (each.1 unguarded).elim

namespace Insertions

variable {stream final : List Instruction} {inserted : List Rule}

/-- What guards have no part in is read off the stream in the same order. -/
theorem filter_map_eq {Value : Type} {read : Instruction → Option Value}
    (insertions : Insertions stream inserted final)
    (unread : ∀ operation, (guardSequence operation).filterMap read = []) :
    final.filterMap read = stream.filterMap read := by
  induction insertions with
  | none => rfl
  | @guard stream final inserted rule index _ induction =>
      rw [induction, insertGuard, List.filterMap_append, List.filterMap_append, unread,
        List.append_nil, ← List.filterMap_append, List.take_append_drop]

theorem labels_eq (insertions : Insertions stream inserted final) :
    final.filterMap Instruction.defined? = stream.filterMap Instruction.defined? :=
  insertions.filter_map_eq fun _ => rfl

theorem targets_eq (insertions : Insertions stream inserted final) :
    final.flatMap Instruction.branchTargets = stream.flatMap Instruction.branchTargets := by
  induction insertions with
  | none => rfl
  | @guard stream final inserted rule index _ induction =>
      have jumpless : (guardSequence rule.operation).flatMap Instruction.branchTargets = [] := rfl
      rw [induction, insertGuard, List.flatMap_append, List.flatMap_append, jumpless,
        List.append_nil, ← List.flatMap_append, List.take_append_drop]

theorem length_eq (insertions : Insertions stream inserted final) :
    final.length = stream.length + 2 * inserted.length := by
  induction insertions with
  | none => rfl
  | @guard stream final inserted rule index _ induction =>
      have pair : (guardSequence rule.operation).length = 2 := rfl
      have halves := congrArg List.length (List.take_append_drop index stream)
      rw [List.length_append] at halves
      rw [induction, insertGuard, List.length_append, List.length_append, pair, List.length_cons]
      omega

theorem eq_of_nothing (insertions : Insertions stream [] final) : final = stream := by
  cases insertions with
  | none => rfl

end Insertions

/-- What weaving comes to for a body: nothing where no rule finds an unprotected call, and
otherwise guards in the stream, with one more slot or with the error that there is none. -/
inductive BodyOutcome (rules : List Rule) (body : Body) :
    Except WeaveError (List Rule) → Body → Prop
  | kept (guarded : ∀ rule ∈ rules, ¬rule.Unprotected body.instructions) :
      BodyOutcome rules body (.ok []) body
  | grown {inserted : List Rule} {final : List Instruction}
      (unguarded : ∃ rule ∈ rules, rule.Unprotected body.instructions)
      (insertions : Insertions body.instructions inserted final) (some : inserted ≠ [])
      (room : body.maxStack ≠ 65535) :
      BodyOutcome rules body (.ok inserted)
        { body with instructions := final, maxStack := body.maxStack + 1 }
  | overflow {inserted : List Rule} {final : List Instruction}
      (unguarded : ∃ rule ∈ rules, rule.Unprotected body.instructions)
      (insertions : Insertions body.instructions inserted final) (some : inserted ≠ [])
      (full : body.maxStack = 65535) :
      BodyOutcome rules body (.error (.stackOverflow 65535)) { body with instructions := final }

theorem slot_left_iff {maxStack : UInt16} :
    maxStack.toNat + 1 < UInt16.size ↔ maxStack ≠ 65535 := by
  have bound : maxStack.toNat < 65536 := maxStack.toNat_lt
  have last : (65535 : UInt16).toNat = 65535 := rfl
  have size : UInt16.size = 65536 := rfl
  rw [ne_eq, ← UInt16.toNat_inj, last, size]
  omega

theorem weave_body_outcome (body : Body) (rules : List Rule) (context : WeaveContext) :
    BodyOutcome rules body (weaveBody body rules context).result
      (weaveBody body rules context).body := by
  have insertions := weave_each_insertions rules body.instructions
  have nothing := nothing_inserted_iff rules body.instructions
  simp only [weaveBody, weave_flagged_reset]
  generalize insertedRules rules (weaveEach false rules body.instructions) = inserted
    at insertions nothing ⊢
  generalize finalStream body.instructions _ = final at insertions ⊢
  cases inserted with
  | nil =>
      rw [insertions.eq_of_nothing]
      exact .kept (nothing.mp rfl)
  | cons rule inserted =>
      have unguarded : ∃ rule ∈ rules, rule.Unprotected body.instructions := by
        by_contra none
        have each : ∀ rule ∈ rules, ¬rule.Unprotected body.instructions :=
          fun item member found => none ⟨item, member, found⟩
        cases nothing.mpr each
      by_cases room : body.maxStack.toNat + 1 < UInt16.size
      · have slot := slot_left_iff.mp room
        simpa [room] using BodyOutcome.grown unguarded insertions (by simp) slot
      · have full := not_not.mp (mt slot_left_iff.mpr room)
        simpa [room, full] using BodyOutcome.overflow unguarded insertions (by simp) full

/-- The flags that a context holds from before decide nothing about a body. -/
theorem weave_body_any_context (body : Body) (rules : List Rule) (context : WeaveContext) :
    (weaveBody body rules context).result = (weaveMethodBody body rules).result ∧
      (weaveBody body rules context).body = (weaveMethodBody body rules).body := by
  simp only [weaveMethodBody, weaveBody, weave_flagged_reset]
  split_ifs <;> exact ⟨rfl, rfl⟩

end AccessWeave
