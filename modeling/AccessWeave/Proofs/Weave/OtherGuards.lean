import AccessWeave.Proofs.Weave.Failure

/-!
# Guards of other operations

A guard that is put in for one operation decides nothing for another one. It is no call that
another rule looks for and has no label, so first calls and dominance stay; and it makes no run
of pairs longer, shorter or split as far as the keys of other operations are concerned, because
it only ever goes to the start of the stream or right before a call to something else than the
guard.
-/

namespace AccessWeave

open Instruction (loadConst invoke guardSequence)

/-! ## Dominance -/

/-- Between two calls to the signature lies a label. -/
def LabelBetween (signature : Signature) (stream : List Instruction) : Prop :=
  ∃ label, [invoke signature, .label label, invoke signature].Sublist stream

/-- Only what lies behind the first call matters. -/
theorem label_between_behind {signature : Signature} {before rest : List Instruction}
    (unseen : invoke signature ∉ before) :
    LabelBetween signature (before ++ invoke signature :: rest) ↔
      ∃ label, [Instruction.label label, invoke signature].Sublist rest := by
  constructor
  · rintro ⟨label, between⟩
    refine ⟨label, ?_⟩
    rcases List.sublist_append_iff.mp between with ⟨front, back, split, inFront, inBack⟩
    cases front with
    | nil =>
        rw [List.nil_append] at split
        rw [← split] at inBack
        exact List.cons_sublist_cons.mp inBack
    | cons call front =>
        rw [List.cons_append] at split
        rw [← (List.cons.inj split).1] at inFront
        exact (unseen (inFront.subset List.mem_cons_self)).elim
  · rintro ⟨label, behind⟩
    exact ⟨label, (List.cons_sublist_cons.mpr behind).trans (List.sublist_append_right _ _)⟩

/-- A label that has a call behind it is in the span that ends with the last call. -/
theorem label_before_call_iff {signature : Signature} {inner after : List Instruction}
    (unseenAfter : invoke signature ∉ after) (label : Label) :
    [Instruction.label label, invoke signature].Sublist (inner ++ [invoke signature] ++ after) ↔
      Instruction.label label ∈ inner := by
  constructor
  · intro behind
    rcases List.sublist_append_iff.mp behind with ⟨front, back, split, inFront, inBack⟩
    cases front with
    | nil =>
        rw [List.nil_append] at split
        rw [← split] at inBack
        exact (unseenAfter (inBack.subset (by simp))).elim
    | cons found front =>
        obtain ⟨rfl, _⟩ := List.cons.inj split
        simpa using inFront.subset List.mem_cons_self
  · intro inside
    have pair : [Instruction.label label, invoke signature].Sublist
        (inner ++ [invoke signature]) :=
      (List.singleton_sublist.mpr inside).append (List.Sublist.refl [invoke signature])
    exact pair.trans (List.sublist_append_left _ _)

theorem unlabelled_iff {span : List Instruction} :
    (∀ instruction ∈ span, instruction.isLabel = false) ↔
      ∀ label, Instruction.label label ∉ span := by
  constructor
  · intro unlabelled label inside
    cases unlabelled _ inside
  · intro nothing instruction inside
    cases instruction with
    | label label => exact (nothing label inside).elim
    | _ => rfl

/-- The span of the calls ends with a call, where it does not begin and end with the first. -/
theorem span_ends_with_call {signature : Signature} {before span after : List Instruction}
    (last : (before ++ invoke signature :: (span ++ after))[before.length + span.length]? =
      some (invoke signature)) :
    span = [] ∨ ∃ inner, span = inner ++ [invoke signature] := by
  rcases List.eq_nil_or_concat span with rfl | ⟨inner, ending, rfl⟩
  · exact .inl rfl
  · have place : (before ++ invoke signature :: (inner.concat ending ++ after))[
        before.length + (inner.concat ending).length]? = some ending := by
      simp
    rw [place] at last
    rw [Option.some.inj last, List.concat_eq_append]
    exact .inr ⟨inner, rfl⟩

theorem dominates_iff_no_label_between {stream : List Instruction} {signature : Signature}
    {first last : Nat} (head : (callPositions stream signature).head? = some first)
    (final : (callPositions stream signature).getLast? = some last) :
    dominates stream first last = true ↔ ¬LabelBetween signature stream := by
  have lastCall := mem_call_positions_iff.mp (List.mem_of_getLast? final)
  rcases call_span head final with ⟨before, span, after, rfl, rfl, rfl, unseen, unseenAfter⟩
  rw [dominates_iff, List.take_left, label_between_behind unseen, not_exists, unlabelled_iff]
  apply forall_congr'
  intro label
  rcases span_ends_with_call lastCall with rfl | ⟨inner, rfl⟩
  · -- There is only one call.
    have nothing : ¬[Instruction.label label, invoke signature].Sublist after :=
      fun behind => unseenAfter (behind.subset (by simp))
    simp [nothing]
  · rw [label_before_call_iff unseenAfter]
    simp

/-- The instructions that decide about dominance. -/
def tellsDominance (signature : Signature) (instruction : Instruction) : Bool :=
  instruction.isLabel || instruction.isCallTo signature

theorem label_between_filter {signature : Signature} {stream : List Instruction} :
    LabelBetween signature (stream.filter (tellsDominance signature)) ↔
      LabelBetween signature stream := by
  have kept : ∀ label, [invoke signature, .label label, invoke signature].filter
      (tellsDominance signature) = [invoke signature, .label label, invoke signature] := by
    intro label
    simp [tellsDominance, Instruction.isLabel, is_call_to_iff.mpr]
  constructor
  · rintro ⟨label, between⟩
    exact ⟨label, between.trans List.filter_sublist⟩
  · rintro ⟨label, between⟩
    have filtered := between.filter (tellsDominance signature)
    rw [kept] at filtered
    exact ⟨label, filtered⟩

theorem guard_tells_nothing {signature : Signature} (other : Operation)
    (foreign : signature ≠ guardEntry) :
    (guardSequence other).filter (tellsDominance signature) = [] := by
  have differs : ¬guardEntry = signature := fun same => foreign same.symm
  simp [guardSequence, tellsDominance, Instruction.isLabel, Instruction.isCallTo,
    Instruction.invoked?, differs]

theorem label_between_insert {signature : Signature} (left right : List Instruction)
    (other : Operation) (foreign : signature ≠ guardEntry) :
    LabelBetween signature (left ++ guardSequence other ++ right) ↔
      LabelBetween signature (left ++ right) := by
  rw [← label_between_filter, List.filter_append, List.filter_append,
    guard_tells_nothing other foreign, List.append_nil, ← List.filter_append,
    label_between_filter]

/-! ## Runs of pairs -/

section Runs

variable {key : String} {operation : Operation} {called : Signature}

theorem pair_key_before_call {first : Instruction} (foreign : called ≠ guardEntry) :
    pairKey? first (invoke called) = none := by
  cases found : pairKey? first (invoke called) with
  | none => rfl
  | some key =>
      have entry := (pair_key_some_iff.mp found).2
      exact (foreign (Instruction.invoke.inj entry)).elim

theorem pair_key_of_guard :
    pairKey? (loadConst (.string operation.key)) (invoke guardEntry) = some operation.key :=
  pair_key_some_iff.mpr ⟨rfl, rfl⟩

theorem pair_key_behind_call (first : Signature) (second : Instruction) :
    pairKey? (invoke first) second = none := by
  cases second <;> rfl

theorem pair_key_of_literal (first : Instruction) (constant : Constant) :
    pairKey? first (loadConst constant) = none := by
  cases first with
  | loadConst literal => cases literal <;> rfl
  | _ => rfl

theorem entry_run_of_guard (stream : List Instruction) :
    entryRunHolds key (guardSequence operation ++ stream) =
      (operation.key = key || entryRunHolds key stream) := by
  simp [guardSequence, entryRunHolds, pair_key_of_guard]

/-- A guard of another operation before a call does not show in the run at the start. -/
theorem entry_run_before_call (foreign : called ≠ guardEntry) (other : operation.key ≠ key)
    (rest : List Instruction) : ∀ left : List Instruction,
    entryRunHolds key (left ++ guardSequence operation ++ invoke called :: rest) =
      entryRunHolds key (left ++ invoke called :: rest)
  | [] => by
      rw [List.nil_append, List.nil_append, entry_run_of_guard]
      simp [other]
  | [only] => by
      simp [guardSequence, entryRunHolds, pair_key_of_literal, pair_key_before_call foreign]
  | first :: second :: left => by
      simp only [List.cons_append, entryRunHolds, entry_run_before_call foreign other rest left]

theorem closing_run_of_guard (before : List Instruction) :
    closingRunHolds key (before ++ guardSequence operation).reverse =
      (operation.key = key || closingRunHolds key before.reverse) := by
  simp [guardSequence, closingRunHolds, pair_key_of_guard]

/-- A guard of another operation at the start does not show in a run that ends before a call. -/
theorem closing_run_behind_guard (other : operation.key ≠ key) (before : List Instruction) :
    closingRunHolds key (guardSequence operation ++ before).reverse =
      closingRunHolds key before.reverse := by
  have backwards : ∀ stream, closingRunHolds key (stream ++ (guardSequence operation).reverse) =
      closingRunHolds key stream := by
    intro stream
    fun_induction closingRunHolds key stream with
    | case1 second first rest found pair induction =>
        simp only [List.cons_append, closingRunHolds, pair, induction]
    | case2 second first rest pair =>
        simp only [List.cons_append, closingRunHolds, pair]
    | case3 stream short =>
        rcases stream with _ | ⟨second, _ | ⟨first, rest⟩⟩
        · simp [guardSequence, closingRunHolds, pair_key_of_guard, other]
        · simp [guardSequence, closingRunHolds, pair_key_behind_call]
        · exact (short second first rest rfl).elim
  rw [List.reverse_append]
  exact backwards before.reverse

/-- What stands in front of a call does not show in a run that ends behind it. -/
theorem closing_run_behind_call (foreign : called ≠ guardEntry) (front other : List Instruction)
    (behind : List Instruction) :
    closingRunHolds key (front ++ invoke called :: behind).reverse =
      closingRunHolds key (other ++ invoke called :: behind).reverse := by
  have backwards : ∀ stream rest, closingRunHolds key (stream ++ invoke called :: rest) =
      closingRunHolds key stream := by
    intro stream rest
    fun_induction closingRunHolds key stream with
    | case1 second first later found pair induction =>
        simp only [List.cons_append, closingRunHolds, pair, induction]
    | case2 second first later pair =>
        simp only [List.cons_append, closingRunHolds, pair]
    | case3 stream short =>
        rcases stream with _ | ⟨second, _ | ⟨first, later⟩⟩
        · cases rest with
          | nil => rfl
          | cons next rest => simp [closingRunHolds, pair_key_before_call foreign]
        · simp [closingRunHolds, pair_key_behind_call]
        · exact (short second first later rfl).elim
  simp only [List.reverse_append, List.reverse_cons, List.append_assoc, List.singleton_append,
    backwards]

end Runs

/-! ## Unprotected calls -/

variable {rule : Rule}

/-- Whether a rule finds an unprotected call, read off the stream as it is cut at the first. -/
theorem unprotected_at_first_call {before rest : List Instruction}
    (unseen : invoke rule.signature ∉ before) :
    rule.Unprotected (before ++ invoke rule.signature :: rest) ↔
      entryRunHolds rule.operation.key (before ++ invoke rule.signature :: rest) = false ∧
        (LabelBetween rule.signature (before ++ invoke rule.signature :: rest) ∨
          closingRunHolds rule.operation.key before.reverse = false) := by
  obtain ⟨head, last, final⟩ := first_and_last_call rest unseen
  have dominance := dominates_iff_no_label_between head final
  rw [rule.unprotected_iff head final, protects, Bool.or_eq_false_iff, Bool.and_eq_false_iff,
    List.take_left, ← Bool.not_eq_true (dominates _ _ _), dominance, not_not]

theorem not_unprotected_of_uncalled {stream : List Instruction}
    (unseen : invoke rule.signature ∉ stream) : ¬rule.Unprotected stream :=
  fun unguarded => unseen unguarded.1

section Insert

variable {other : Operation} {called : Signature} {left tail : List Instruction}

theorem unseen_with_guard (other : Operation) (foreign : rule.signature ≠ guardEntry)
    (unseen : invoke rule.signature ∉ left) :
    invoke rule.signature ∉ left ++ guardSequence other := by
  have still := mem_woven_iff left [] other foreign
  rw [List.append_nil, List.append_nil] at still
  exact mt still.mp unseen

theorem unprotected_insert_at_start {stream : List Instruction}
    (differs : other.key ≠ rule.operation.key) (foreign : rule.signature ≠ guardEntry)
    (seen : invoke rule.signature ∈ stream) :
    rule.Unprotected (guardSequence other ++ stream) ↔ rule.Unprotected stream := by
  rcases List.eq_append_cons_of_mem seen with ⟨before, rest, rfl, unseen⟩
  have labels := label_between_insert [] (before ++ invoke rule.signature :: rest) other foreign
  have unseenBefore : invoke rule.signature ∉ guardSequence other ++ before :=
    mt (mem_woven_iff [] before other foreign).mp unseen
  simp only [List.nil_append] at labels
  rw [unprotected_at_first_call unseen]
  rw [← List.append_assoc] at labels ⊢
  rw [unprotected_at_first_call unseenBefore, closing_run_behind_guard differs, labels,
    List.append_assoc, entry_run_of_guard]
  simp [differs]

theorem unprotected_insert_behind_first_call (differs : other.key ≠ rule.operation.key)
    (foreign : rule.signature ≠ guardEntry) (foreignCall : called ≠ guardEntry)
    (early : invoke rule.signature ∈ left) :
    rule.Unprotected (left ++ guardSequence other ++ invoke called :: tail) ↔
      rule.Unprotected (left ++ invoke called :: tail) := by
  have labels := label_between_insert left (invoke called :: tail) other foreign
  have entry := entry_run_before_call foreignCall differs tail left
  rcases List.eq_append_cons_of_mem early with ⟨before, rest, rfl, unseen⟩
  simp only [List.append_assoc, List.cons_append] at labels entry ⊢
  rw [unprotected_at_first_call unseen, unprotected_at_first_call unseen, labels, entry]

theorem unprotected_insert_at_first_call (differs : other.key ≠ rule.operation.key)
    (foreign : rule.signature ≠ guardEntry) (unseen : invoke rule.signature ∉ left) :
    rule.Unprotected (left ++ guardSequence other ++ invoke rule.signature :: tail) ↔
      rule.Unprotected (left ++ invoke rule.signature :: tail) := by
  rw [unprotected_at_first_call unseen,
    unprotected_at_first_call (unseen_with_guard other foreign unseen),
    label_between_insert _ _ other foreign, entry_run_before_call foreign differs,
    closing_run_of_guard]
  simp [differs]

theorem unprotected_insert_before_first_call (differs : other.key ≠ rule.operation.key)
    (foreign : rule.signature ≠ guardEntry) (foreignCall : called ≠ guardEntry)
    (earlier : called ≠ rule.signature) (unseen : invoke rule.signature ∉ left)
    (later : invoke rule.signature ∈ tail) :
    rule.Unprotected (left ++ guardSequence other ++ invoke called :: tail) ↔
      rule.Unprotected (left ++ invoke called :: tail) := by
  have labels := label_between_insert left (invoke called :: tail) other foreign
  have entry := entry_run_before_call foreignCall differs tail left
  rcases List.eq_append_cons_of_mem later with ⟨between, rest, rfl, unseenBetween⟩
  have unseenBefore : ∀ front, invoke rule.signature ∉ front →
      invoke rule.signature ∉ front ++ invoke called :: between := by
    intro front unseenFront
    simp [unseenFront, unseenBetween, Ne.symm earlier]
  rw [← List.cons_append, ← List.append_assoc] at labels entry
  rw [← List.cons_append, ← List.append_assoc, ← List.append_assoc]
  rw [← List.append_assoc left] at labels entry
  rw [unprotected_at_first_call (unseenBefore left unseen),
    unprotected_at_first_call (unseenBefore _ (unseen_with_guard other foreign unseen)), labels,
    entry, closing_run_behind_call foreignCall (left ++ guardSequence other) left between]

/-- A guard of another operation, put where weaving puts guards, leaves it as it was whether a
rule finds an unprotected call. -/
theorem unprotected_insert {right : List Instruction}
    (differs : other.key ≠ rule.operation.key) (foreign : rule.signature ≠ guardEntry)
    (site : IsSite left right) :
    rule.Unprotected (left ++ guardSequence other ++ right) ↔ rule.Unprotected (left ++ right) := by
  by_cases seen : invoke rule.signature ∈ left ++ right
  swap
  · have still := mt (mem_woven_iff left right other foreign).mp seen
    exact iff_of_false (not_unprotected_of_uncalled still) (not_unprotected_of_uncalled seen)
  rcases site with rfl | ⟨called, tail, foreignCall, rfl⟩
  · exact unprotected_insert_at_start differs foreign seen
  by_cases early : invoke rule.signature ∈ left
  · exact unprotected_insert_behind_first_call differs foreign foreignCall early
  by_cases here : called = rule.signature
  · subst here
    exact unprotected_insert_at_first_call differs foreign early
  · have later : invoke rule.signature ∈ tail := by
      simpa [early, Ne.symm here] using seen
    exact unprotected_insert_before_first_call differs foreign foreignCall here early later

end Insert

end AccessWeave
