import AccessWeave.Proofs.Weave.CallSites
import AccessWeave.Proofs.Weave.GuardRun

/-!
# Covered signatures

A stream covers a signature for an operation when it has no call to it, when a guard of the
operation is in the run of guards at the start, or when such a guard is in a run that ends
right before the first call and no label lies between the calls. This is what the weaver
recognizes, what it makes true, and what later guards leave true; nothing here speaks of
control flow.
-/

namespace AccessWeave

open Instruction (loadConst invoke guardSequence)

inductive Covered (operation : Operation) (signature : Signature)
    (stream : List Instruction) : Prop
  | absent (unseen : invoke signature ∉ stream)
  | atEntry (keys : List String) (rest : List Instruction)
      (split : stream = guardRun keys ++ rest) (member : operation.key ∈ keys)
  | beforeCalls (before : List Instruction) (keys : List String) (span after : List Instruction)
      (split : stream = before ++ guardRun keys ++ invoke signature :: (span ++ after))
      (member : operation.key ∈ keys)
      (unseen : invoke signature ∉ before) (unseenAfter : invoke signature ∉ after)
      (unlabelled : ∀ instruction ∈ span, instruction.isLabel = false)

/-- A place where weaving puts guards: the start, or before a call to anything but the
guard. No guard pair is split there. -/
def IsSite (left right : List Instruction) : Prop :=
  left = [] ∨ ∃ signature rest, signature ≠ guardEntry ∧ right = invoke signature :: rest

variable {operation : Operation} {signature : Signature}

theorem mem_woven_iff (left right : List Instruction) (other : Operation)
    (foreign : signature ≠ guardEntry) :
    invoke signature ∈ left ++ guardSequence other ++ right ↔
      invoke signature ∈ left ++ right := by
  have outside : invoke signature ∉ guardSequence other := by
    intro inside
    rw [guard_sequence_eq_run] at inside
    exact guard_run_no_call foreign inside rfl
  simp [outside]

/-- A call to anything but the guard is not inside a run, so a run before the rest of a
stream is on one side of it. -/
theorem run_before_site {keys : List String} {left right rest : List Instruction}
    {called : Signature} {tail : List Instruction} (foreign : called ≠ guardEntry)
    (call : right = invoke called :: tail) (split : left ++ right = guardRun keys ++ rest) :
    ∃ middle, left = guardRun keys ++ middle ∧ rest = middle ++ right := by
  rcases List.append_eq_append_iff.mp split with ⟨middle, inRun, behind⟩ | found
  · cases middle with
    | nil => exact ⟨[], by simpa using inRun.symm, by simpa using behind.symm⟩
    | cons head middle =>
        have headIs : head = invoke called := by
          rw [call, List.cons_append] at behind
          exact (List.cons.inj behind).1.symm
        have inside : head ∈ guardRun keys := by
          rw [inRun]
          simp
        exact (guard_run_no_call foreign inside headIs).elim
  · exact found

/-- A guard at the start of a stream leaves a covered signature covered. -/
theorem Covered.insert_first {stream : List Instruction} (other : Operation)
    (foreign : signature ≠ guardEntry) (covered : Covered operation signature stream) :
    Covered operation signature (guardSequence other ++ stream) := by
  cases covered with
  | absent unseen => exact .absent (mt (mem_woven_iff [] stream other foreign).mp unseen)
  | atEntry keys rest split member =>
      refine .atEntry (other.key :: keys) rest ?_ (List.mem_cons_of_mem _ member)
      simp [split, guard_sequence_eq_run]
  | beforeCalls before keys span after split member unseen unseenAfter unlabelled =>
      refine .beforeCalls (guardSequence other ++ before) keys span after ?_ member ?_
        unseenAfter unlabelled
      · simp [split]
      · exact mt (mem_woven_iff [] before other foreign).mp unseen

theorem unlabelled_insert {early late : List Instruction} (other : Operation)
    (unlabelled : ∀ instruction ∈ early ++ late, instruction.isLabel = false) :
    ∀ instruction ∈ early ++ guardSequence other ++ late, instruction.isLabel = false := by
  intro instruction inside
  rw [List.append_assoc, List.mem_append, List.mem_append] at inside
  rcases inside with before | guard | behind
  · exact unlabelled instruction (List.mem_append_left _ before)
  · rw [guard_sequence_eq_run] at guard
    exact guard_run_no_label guard
  · exact unlabelled instruction (List.mem_append_right _ behind)

/-- A guard behind the run that covers a signature: between the run and the first call, inside
the span of the calls, or behind them. -/
theorem Covered.insert_behind_run {before inner right span after : List Instruction}
    {keys : List String} (other : Operation) (foreign : signature ≠ guardEntry)
    (member : operation.key ∈ keys) (unseen : invoke signature ∉ before)
    (unseenAfter : invoke signature ∉ after)
    (unlabelled : ∀ instruction ∈ span, instruction.isLabel = false)
    (split : invoke signature :: (span ++ after) = inner ++ right) :
    Covered operation signature
      (before ++ guardRun keys ++ inner ++ guardSequence other ++ right) := by
  cases inner with
  | nil =>
      -- The run grows.
      refine .beforeCalls before (keys ++ [other.key]) span after ?_
        (List.mem_append_left _ member) unseen unseenAfter unlabelled
      rw [List.nil_append] at split
      simp [← split, guard_sequence_eq_run]
  | cons head inner =>
      rw [List.cons_append] at split
      obtain ⟨rfl, behind⟩ := List.cons.inj split
      rcases List.append_eq_append_iff.mp behind with
        ⟨gap, rfl, rfl⟩ | ⟨gap, rfl, rfl⟩
      · refine .beforeCalls before keys span (gap ++ guardSequence other ++ right) ?_
          member unseen ?_ unlabelled
        · simp
        · exact mt (mem_woven_iff _ _ other foreign).mp unseenAfter
      · refine .beforeCalls before keys (inner ++ guardSequence other ++ gap) after ?_
          member unseen unseenAfter (unlabelled_insert other unlabelled)
        simp

/-- A guard that is put in later leaves a covered signature covered. -/
theorem Covered.insert {left right : List Instruction} (other : Operation)
    (foreign : signature ≠ guardEntry) (site : IsSite left right)
    (covered : Covered operation signature (left ++ right)) :
    Covered operation signature (left ++ guardSequence other ++ right) := by
  rcases site with rfl | ⟨called, tail, foreignCall, call⟩
  · exact covered.insert_first other foreign
  cases covered with
  | absent unseen => exact .absent (mt (mem_woven_iff _ _ other foreign).mp unseen)
  | atEntry keys rest split member =>
      rcases run_before_site foreignCall call split with ⟨middle, leftIs, _⟩
      refine .atEntry keys (middle ++ guardSequence other ++ right) ?_ member
      simp [leftIs]
  | beforeCalls before keys span after split member unseen unseenAfter unlabelled =>
      rw [List.append_assoc] at split
      rcases List.append_eq_append_iff.mp split with
        ⟨middle, beforeIs, rightIs⟩ | ⟨middle, leftIs, behind⟩
      · -- In front of the run.
        refine .beforeCalls (left ++ guardSequence other ++ middle) keys span after ?_ member ?_
          unseenAfter unlabelled
        · simp [rightIs]
        · rw [beforeIs] at unseen
          exact mt (mem_woven_iff _ _ other foreign).mp unseen
      · rcases run_before_site foreignCall call behind.symm with ⟨inner, middleIs, ahead⟩
        rw [leftIs, middleIs, ← List.append_assoc]
        exact .insert_behind_run other foreign member unseen unseenAfter unlabelled ahead

end AccessWeave
