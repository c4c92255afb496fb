import AccessWeave.Proofs.Weave.Coverage
import AccessWeave.Proofs.Weave.Flags

/-!
# Weaving as a relation

What one rule can do to a stream is said once: it keeps a stream that covers its signature,
and otherwise puts one guard at a site, after which the signature is covered. A list of rules
is a chain of such steps, and a body is woven by such a chain with its declared stack grown
when a guard was put in. Rules for the calls of the guard itself are left out throughout.
-/

namespace AccessWeave

open Instruction (loadConst invoke guardSequence)

/-- The weaver's test for an existing guard recognizes exactly the covered streams. -/
theorem protects_iff_covered {stream : List Instruction} {signature : Signature} {first last : Nat}
    (operation : Operation) (foreign : signature ≠ guardEntry)
    (head : (callPositions stream signature).head? = some first)
    (final : (callPositions stream signature).getLast? = some last) :
    protects stream operation first (dominates stream first last) = true ↔
      Covered operation signature stream := by
  rw [protects, Bool.or_eq_true, Bool.and_eq_true, entry_run_holds_iff, closing_run_holds_iff]
  constructor
  · rintro (⟨keys, rest, split, member⟩ | ⟨dominated, before, keys, closing, member⟩)
    · exact .atEntry keys rest split member
    · rcases call_span head final with ⟨front, span, after, rfl, rfl, rfl, unseen, unseenAfter⟩
      rw [dominates_iff, List.take_left] at dominated
      rw [List.take_left] at closing
      subst closing
      refine .beforeCalls before keys span after rfl member ?_ unseenAfter dominated
      exact fun inside => unseen (List.mem_append_left _ inside)
  · intro covered
    cases covered with
    | absent unseen =>
        rw [call_positions_nil_iff.mpr unseen] at head
        cases head
    | atEntry keys rest split member => exact Or.inl ⟨keys, rest, split, member⟩
    | beforeCalls before keys span after split member unseen unseenAfter unlabelled =>
        subst split
        have unseenFront : invoke signature ∉ before ++ guardRun keys := by
          intro inside
          rcases List.mem_append.mp inside with early | guard
          · exact unseen early
          · exact guard_run_no_call foreign guard rfl
        rcases calls_within_span span unseenFront unseenAfter with
          ⟨count, bound, headIs, finalIs⟩
        rw [head] at headIs
        rw [final] at finalIs
        rw [Option.some.inj headIs, Option.some.inj finalIs]
        refine Or.inr ⟨?_, before, keys, List.take_left, member⟩
        rw [dominates_iff, List.take_append_of_le_length bound]
        exact fun instruction inside => unlabelled instruction (List.mem_of_mem_take inside)

/-- What a rule whose flag is not set does: nothing where it has no call, nothing but setting
the flag where the first call is protected, and otherwise it puts one guard in. -/
theorem weave_stream_inversion (rule : Rule) (stream : List Instruction) :
    (invoke rule.signature ∉ stream ∧ weaveStream stream rule false = ⟨stream, false, false⟩) ∨
    ∃ first last, (callPositions stream rule.signature).head? = some first ∧
      (callPositions stream rule.signature).getLast? = some last ∧
      (protects stream rule.operation first (dominates stream first last) = true ∧
          weaveStream stream rule false = ⟨stream, false, true⟩ ∨
        protects stream rule.operation first (dominates stream first last) = false ∧
          weaveStream stream rule false =
            ⟨insertGuard stream rule.operation
              (if rule.placement = .beforeCall ∧ dominates stream first last then first else 0),
              true, true⟩) := by
  cases head : (callPositions stream rule.signature).head? with
  | none =>
      have unseen := call_positions_nil_iff.mp (List.head?_eq_none_iff.mp head)
      exact .inl ⟨unseen, by simp only [weaveStream, head, Bool.false_eq_true, if_false]⟩
  | some first =>
      cases final : (callPositions stream rule.signature).getLast? with
      | none =>
          rw [List.getLast?_eq_none_iff.mp final] at head
          cases head
      | some last =>
          refine .inr ⟨first, last, rfl, rfl, ?_⟩
          simp only [weaveStream, head, final, Bool.false_eq_true, if_false]
          cases protects stream rule.operation first (dominates stream first last) with
          | true => exact .inl ⟨rfl, if_pos rfl⟩
          | false => exact .inr ⟨rfl, if_neg Bool.false_ne_true⟩

/-- The step of one rule whose flag is not set. -/
inductive WeaveStep (rule : Rule) : List Instruction → WovenStream → Prop
  | kept {stream : List Instruction} (covered : Covered rule.operation rule.signature stream) :
      WeaveStep rule stream ⟨stream, false, decide (invoke rule.signature ∈ stream)⟩
  | inserted {left right : List Instruction} (site : IsSite left right)
      (uncovered : ¬Covered rule.operation rule.signature (left ++ right))
      (covered : Covered rule.operation rule.signature
        (left ++ guardSequence rule.operation ++ right)) :
      WeaveStep rule (left ++ right) ⟨left ++ guardSequence rule.operation ++ right, true, true⟩

theorem insert_at_first_call {before rest : List Instruction} (operation : Operation)
    (call : Instruction) :
    insertGuard (before ++ call :: rest) operation before.length =
      before ++ guardSequence operation ++ call :: rest := by
  simp [insertGuard]

theorem weave_stream_step {rule : Rule} (foreign : rule.signature ≠ guardEntry)
    (stream : List Instruction) : WeaveStep rule stream (weaveStream stream rule false) := by
  rcases weave_stream_inversion rule stream with
    ⟨unseen, step⟩ | ⟨first, last, head, final, ⟨guarded, step⟩ | ⟨unguarded, step⟩⟩
  · have kept : WeaveStep rule stream _ := .kept (.absent unseen)
    simpa [step, unseen] using kept
  · have seen : invoke rule.signature ∈ stream :=
      List.mem_of_getElem? (mem_call_positions_iff.mp (List.mem_of_head? head))
    have covered := (protects_iff_covered rule.operation foreign head final).mp guarded
    simpa [step, seen] using WeaveStep.kept covered
  · have uncovered := mt (protects_iff_covered rule.operation foreign head final).mpr
      (Bool.eq_false_iff.mp unguarded)
    rw [step]
    by_cases before : rule.placement = .beforeCall ∧ dominates stream first last
    · -- Right before the first call, which dominates the others.
      rw [if_pos before]
      rcases call_span head final with ⟨front, span, after, rfl, rfl, rfl, unseen, unseenAfter⟩
      have unlabelled := (dominates_iff _ _ _ _).mp before.2
      rw [List.take_left] at unlabelled
      rw [insert_at_first_call]
      exact .inserted (Or.inr ⟨rule.signature, span ++ after, foreign, rfl⟩) uncovered
        (.beforeCalls front [rule.operation.key] span after rfl (by simp) unseen unseenAfter
          unlabelled)
    · rw [if_neg before]
      have inserted : WeaveStep rule ([] ++ stream) _ :=
        .inserted (Or.inl rfl) uncovered (.atEntry [rule.operation.key] stream rfl (by simp))
      exact inserted

/-- The rules taken in order: those whose guard was put in, and the stream at the end. -/
inductive Weaving : List Rule → List Instruction → List Rule → List Instruction → Prop
  | done {stream : List Instruction} : Weaving [] stream [] stream
  | kept {rule : Rule} {rules inserted : List Rule} {stream final : List Instruction}
      (covered : Covered rule.operation rule.signature stream)
      (rest : Weaving rules stream inserted final) :
      Weaving (rule :: rules) stream inserted final
  | inserted {rule : Rule} {rules inserted : List Rule} {left right final : List Instruction}
      (site : IsSite left right)
      (uncovered : ¬Covered rule.operation rule.signature (left ++ right))
      (covered : Covered rule.operation rule.signature
        (left ++ guardSequence rule.operation ++ right))
      (rest : Weaving rules (left ++ guardSequence rule.operation ++ right) inserted final) :
      Weaving (rule :: rules) (left ++ right) (rule :: inserted) final

theorem final_stream_cons (stream : List Instruction) (step : WovenStream)
    (steps : List WovenStream) :
    finalStream stream (step :: steps) = finalStream step.instructions steps := by
  cases steps <;> simp [finalStream, List.getLast?_cons]

theorem inserted_rules_cons (rule : Rule) (rules : List Rule) (step : WovenStream)
    (steps : List WovenStream) :
    insertedRules (rule :: rules) (step :: steps) =
      if step.modified then rule :: insertedRules rules steps else insertedRules rules steps := by
  by_cases modified : step.modified <;> simp [insertedRules, modified]

theorem weave_each_weaving {rules : List Rule}
    (foreign : ∀ rule ∈ rules, rule.signature ≠ guardEntry) (stream : List Instruction) :
    Weaving rules stream (insertedRules rules (weaveEach false rules stream))
      (finalStream stream (weaveEach false rules stream)) := by
  induction rules generalizing stream with
  | nil => exact .done
  | cons rule rules induction =>
      have later := induction (fun item member => foreign item (List.mem_cons_of_mem _ member))
      have step := weave_stream_step (foreign rule (by simp)) stream
      simp only [weaveEach, final_stream_cons, inserted_rules_cons]
      generalize weaveStream stream rule false = woven at step ⊢
      cases step with
      | kept covered => exact .kept covered (later _)
      | inserted site uncovered covered => exact .inserted site uncovered covered (later _)

namespace Weaving

variable {rules inserted : List Rule} {stream final : List Instruction}

/-- What every guard at a site preserves holds at the end. -/
theorem preserves (holds : List Instruction → Prop) (weaving : Weaving rules stream inserted final)
    (step : ∀ left right operation, IsSite left right → holds (left ++ right) →
      holds (left ++ guardSequence operation ++ right))
    (initial : holds stream) : holds final := by
  induction weaving with
  | done => exact initial
  | kept _ _ induction => exact induction initial
  | inserted site _ _ _ induction => exact induction (step _ _ _ site initial)

theorem keeps_covered {operation : Operation} {signature : Signature}
    (weaving : Weaving rules stream inserted final) (foreign : signature ≠ guardEntry)
    (covered : Covered operation signature stream) : Covered operation signature final :=
  weaving.preserves (Covered operation signature)
    (fun _ _ other site before => before.insert other foreign site) covered

/-- No guard that is put in calls anything but the guard. -/
theorem keeps_uncalled {signature : Signature} (weaving : Weaving rules stream inserted final)
    (foreign : signature ≠ guardEntry) (unseen : invoke signature ∉ stream) :
    invoke signature ∉ final :=
  weaving.preserves (invoke signature ∉ ·)
    (fun left right operation _ => mt (mem_woven_iff left right operation foreign).mp) unseen

/-- At the end every rule's signature is covered for its operation, whatever the rules after
it put in. -/
theorem covers (weaving : Weaving rules stream inserted final)
    (foreign : ∀ rule ∈ rules, rule.signature ≠ guardEntry) {rule : Rule}
    (member : rule ∈ rules) : Covered rule.operation rule.signature final := by
  induction weaving with
  | done => cases member
  | kept covered rest induction =>
      rcases List.mem_cons.mp member with rfl | later
      · exact rest.keeps_covered (foreign _ (by simp)) covered
      · exact induction (fun item inside => foreign item (List.mem_cons_of_mem _ inside)) later
  | inserted _ _ covered rest induction =>
      rcases List.mem_cons.mp member with rfl | later
      · exact rest.keeps_covered (foreign _ (by simp)) covered
      · exact induction (fun item inside => foreign item (List.mem_cons_of_mem _ inside)) later

/-- Rules whose signatures are covered already put in nothing. -/
theorem idle (weaving : Weaving rules stream inserted final)
    (covered : ∀ rule ∈ rules, Covered rule.operation rule.signature stream) :
    inserted = [] ∧ final = stream := by
  induction weaving with
  | done => exact ⟨rfl, rfl⟩
  | kept _ _ induction =>
      exact induction (fun item inside => covered item (List.mem_cons_of_mem _ inside))
  | inserted _ uncovered _ _ _ => exact (uncovered (covered _ (by simp))).elim

theorem unchanged_of_nothing_inserted (weaving : Weaving rules stream [] final) :
    final = stream := by
  generalize nothing : ([] : List Rule) = none at weaving
  induction weaving with
  | done => rfl
  | kept _ _ induction => exact induction nothing
  | inserted => cases nothing

end Weaving

theorem slot_added {maxStack : UInt16} (room : maxStack.toNat + 1 < UInt16.size) :
    (maxStack + 1).toNat = maxStack.toNat + 1 := by
  have one : (1 : UInt16).toNat = 1 := rfl
  rw [UInt16.toNat_add, one]
  exact Nat.mod_eq_of_lt room

/-- Weaving a body: the chain of steps on its stream, and then the declared stack, which has
to grow exactly when a guard was put in. -/
inductive WeaveBody (rules : List Rule) (body : Body) :
    Except WeaveError (List Rule) → Body → Prop
  | unchanged (weaving : Weaving rules body.instructions [] body.instructions) :
      WeaveBody rules body (.ok []) body
  | grown {inserted : List Rule} {final : List Instruction}
      (weaving : Weaving rules body.instructions inserted final) (some : inserted ≠ [])
      (room : body.maxStack.toNat + 1 < UInt16.size) :
      WeaveBody rules body (.ok inserted)
        { body with instructions := final, maxStack := body.maxStack + 1 }
  | overflow {inserted : List Rule} {final : List Instruction}
      (weaving : Weaving rules body.instructions inserted final) (some : inserted ≠ [])
      (full : ¬body.maxStack.toNat + 1 < UInt16.size) :
      WeaveBody rules body (.error (.stackOverflow body.maxStack))
        { body with instructions := final }

theorem WeaveBody.covers {rules : List Rule} {body woven : Body}
    {result : Except WeaveError (List Rule)} (weaving : WeaveBody rules body result woven)
    (foreign : ∀ rule ∈ rules, rule.signature ≠ guardEntry) {rule : Rule}
    (member : rule ∈ rules) : Covered rule.operation rule.signature woven.instructions := by
  cases weaving with
  | unchanged weaving => exact weaving.covers foreign member
  | grown weaving _ _ => exact weaving.covers foreign member
  | overflow weaving _ _ => exact weaving.covers foreign member

theorem weave_body_spec {rules : List Rule}
    (foreign : ∀ rule ∈ rules, rule.signature ≠ guardEntry) (body : Body)
    (context : WeaveContext) :
    WeaveBody rules body (weaveBody body rules context).result
      (weaveBody body rules context).body := by
  have weaving := weave_each_weaving foreign body.instructions
  simp only [weaveBody, weave_flagged_reset]
  generalize insertedRules rules (weaveEach false rules body.instructions) = inserted at weaving ⊢
  generalize finalStream body.instructions _ = final at weaving ⊢
  by_cases nothing : inserted = []
  · subst nothing
    obtain rfl := weaving.unchanged_of_nothing_inserted
    exact .unchanged weaving
  · have notEmpty : inserted.isEmpty = false := by simpa using nothing
    by_cases room : body.maxStack.toNat + 1 < UInt16.size
    · simpa [notEmpty, room] using WeaveBody.grown weaving nothing room
    · simpa [notEmpty, room] using WeaveBody.overflow weaving nothing room

end AccessWeave
