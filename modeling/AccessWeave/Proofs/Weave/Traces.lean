import AccessWeave.Proofs.Class.ControlFlow
import AccessWeave.Proofs.Weave.Layout

/-!
# Traces of a woven body

A trail through a woven body is read as a trail through the original one by leaving out the
guards that were put in and taking every other instruction for the original it is. Where those
guards return, woven and original body have the same trails: jumps and handlers name labels,
and control falls from a label through whatever guards stand before the next original
instruction. What happens when such a guard throws is left open here.
-/

namespace AccessWeave

open Instruction (guardSequence)

namespace Layout

/-- Whether the guards that were put in returned wherever the trail came through them. -/
def Quiet (layout : Layout) (trail : Trail) : Prop :=
  ∀ index edge, (index, edge) ∈ trail → layout.silent index = true → edge = .falls

/-- The trail through the original stream. -/
def erase (layout : Layout) (trail : Trail) : Trail :=
  trail.filterMap fun (index, edge) =>
    if layout.silent index then none else some (layout.origin index, edge)

/-- A body and what weaving makes of it, as far as control flow is concerned. -/
structure Between (layout : Layout) (before after : Body) : Prop where
  original : layout.original = before.instructions
  woven : layout.woven = after.instructions
  handlers : after.handlers = before.handlers

variable {layout : Layout}

theorem erase_append (early late : Trail) :
    layout.erase (early ++ late) = layout.erase early ++ layout.erase late :=
  List.filterMap_append

theorem erase_silent {index : Nat} (edge : Edge) (quiet : layout.silent index = true) :
    layout.erase [(index, edge)] = [] := by
  simp [erase, quiet]

theorem erase_kept {index : Nat} (edge : Edge) (loud : layout.silent index = false) :
    layout.erase [(index, edge)] = [(layout.origin index, edge)] := by
  simp [erase, loud]

theorem quiet_append {early late : Trail} :
    layout.Quiet (early ++ late) ↔ layout.Quiet early ∧ layout.Quiet late := by
  simp only [Quiet, List.mem_append]
  constructor
  · intro both
    exact ⟨fun index edge inside => both index edge (Or.inl inside),
      fun index edge inside => both index edge (Or.inr inside)⟩
  · rintro ⟨first, second⟩ index edge (inside | inside)
    · exact first index edge inside
    · exact second index edge inside

theorem quiet_kept {index : Nat} (edge : Edge) (loud : layout.silent index = false) :
    layout.Quiet [(index, edge)] := by
  intro place way inside quiet
  cases List.mem_singleton.mp inside
  rw [loud] at quiet
  cases quiet

theorem quiet_falls (index : Nat) : layout.Quiet [(index, .falls)] := by
  intro place way inside _
  cases List.mem_singleton.mp inside
  rfl

namespace Between

variable {before after : Body} (between : layout.Between before after)
include between

theorem instruction_kept {index : Nat} (loud : layout.silent index = false) :
    after.instructions[index]? = before.instructions[layout.origin index]? := by
  rw [← between.woven, ← between.original, kept_instruction loud]

theorem inside_iff {index : Nat} (loud : layout.silent index = false) :
    index < after.instructions.length ↔ layout.origin index < before.instructions.length := by
  rw [← Nat.not_le, ← Nat.not_le, ← List.getElem?_eq_none_iff, ← List.getElem?_eq_none_iff,
    between.instruction_kept loud]

theorem defines_iff {label : Label} {index : Nat} :
    after.Defines label index ↔
      layout.silent index = false ∧ before.Defines label (layout.origin index) := by
  cases quiet : layout.silent index with
  | true =>
      rcases silent_instruction quiet with ⟨instruction, here, unlabelled, _⟩
      rw [between.woven] at here
      rw [Body.Defines, here]
      constructor
      · intro same
        cases same
        cases unlabelled
      · rintro ⟨loud, _⟩
        cases loud
  | false => simp only [Body.Defines, between.instruction_kept quiet, true_and]

/-- Every label is still defined somewhere, at the original instruction. -/
theorem defines_at {label : Label} {target : Nat} (defined : before.Defines label target) :
    ∃ index, layout.origin index = target ∧ after.Defines label index := by
  rcases exists_place layout target with ⟨index, loud, rfl⟩
  exact ⟨index, rfl, between.defines_iff.mpr ⟨loud, defined⟩⟩

/-- An original instruction is in the range of a handler exactly when it was. -/
theorem protected_iff {handler : Handler} {index : Nat} (loud : layout.silent index = false) :
    after.Protected handler index ↔ before.Protected handler (layout.origin index) := by
  constructor
  · rintro ⟨start, finish, defined, ended, early, late⟩
    exact ⟨layout.origin start, layout.origin finish, (between.defines_iff.mp defined).2,
      (between.defines_iff.mp ended).2, origin_mono early, origin_lt_of_kept loud late⟩
  · rintro ⟨start, finish, defined, ended, early, late⟩
    rcases between.defines_at defined with ⟨opening, rfl, definedAfter⟩
    rcases between.defines_at ended with ⟨closing, rfl, endedAfter⟩
    refine ⟨opening, closing, definedAfter, endedAfter, ?_, ?_⟩
    · by_contra behind
      have order := origin_lt_of_kept loud (Nat.lt_of_not_le behind)
      omega
    · by_contra behind
      have order : layout.origin closing ≤ layout.origin index :=
        origin_mono (Nat.le_of_not_lt behind)
      omega

/-- A step from an original instruction is a step of the original body. -/
theorem erases_step {index next : Nat} {edge : Edge} (loud : layout.silent index = false)
    (step : after.Step index edge next) :
    before.Step (layout.origin index) edge (layout.origin next) := by
  have same := between.instruction_kept loud
  cases step with
  | falls inside =>
      rw [origin_after_kept loud]
      exact .falls ((between.inside_iff loud).mp inside)
  | jumps here named defined =>
      rw [same] at here
      exact .jumps here named (between.defines_iff.mp defined).2
  | throws listed covered defined =>
      rw [between.handlers] at listed
      exact .throws listed ((between.protected_iff loud).mp covered)
        (between.defines_iff.mp defined).2

/-- A step of the original body is a step from where the instruction is now. -/
theorem lifts_step {index target : Nat} {edge : Edge} (loud : layout.silent index = false)
    (step : before.Step (layout.origin index) edge target) :
    ∃ next, layout.origin next = target ∧ after.Step index edge next := by
  have same := between.instruction_kept loud
  cases step with
  | falls inside =>
      exact ⟨index + 1, origin_after_kept loud, .falls ((between.inside_iff loud).mpr inside)⟩
  | jumps here named defined =>
      rcases between.defines_at defined with ⟨next, place, definedAfter⟩
      rw [← same] at here
      exact ⟨next, place, .jumps here named definedAfter⟩
  | throws listed covered defined =>
      rcases between.defines_at defined with ⟨next, place, definedAfter⟩
      rw [← between.handlers] at listed
      exact ⟨next, place, .throws listed ((between.protected_iff loud).mpr covered) definedAfter⟩

/-- Control that is inside guards falls through them to the original instruction behind. -/
theorem settles {trail : Trail} {index : Nat} (run : after.Run trail index)
    (quiet : layout.Quiet trail) :
    ∃ settled place, after.Run settled place ∧ layout.Quiet settled ∧
      layout.erase settled = layout.erase trail ∧ layout.silent place = false ∧
      layout.origin place = layout.origin index := by
  generalize measure : after.instructions.length - index = left
  induction left generalizing trail index with
  | zero =>
      cases silence : layout.silent index with
      | false => exact ⟨trail, index, run, quiet, rfl, silence, rfl⟩
      | true =>
          rcases silent_instruction silence with ⟨_, here, _, _⟩
          rw [between.woven] at here
          have inside := (List.getElem?_eq_some_iff.mp here).1
          omega
  | succ left induction =>
      cases silence : layout.silent index with
      | false => exact ⟨trail, index, run, quiet, rfl, silence, rfl⟩
      | true =>
          have fallen := run.step (.falls (by omega))
          rcases induction fallen (quiet_append.mpr ⟨quiet, quiet_falls index⟩) (by omega) with
            ⟨settled, place, reached, quietSettled, erased, loud, originIs⟩
          refine ⟨settled, place, reached, quietSettled, ?_, loud, ?_⟩
          · rw [erased, erase_append, erase_silent _ silence, List.append_nil]
          · rw [originIs, origin_after_silent silence]

theorem erases_run {trail : Trail} {index : Nat} (run : after.Run trail index)
    (quiet : layout.Quiet trail) : before.Run (layout.erase trail) (layout.origin index) := by
  induction run with
  | start =>
      rw [origin_zero]
      exact .start
  | @step trail index next edge run step induction =>
      rcases quiet_append.mp quiet with ⟨quietTrail, quietLast⟩
      rw [erase_append]
      cases silence : layout.silent index with
      | true =>
          obtain rfl := quietLast index edge (List.mem_singleton.mpr rfl) silence
          cases step with
          | falls _ =>
              rw [erase_silent _ silence, List.append_nil, origin_after_silent silence]
              exact induction quietTrail
      | false =>
          rw [erase_kept _ silence]
          exact (induction quietTrail).step (between.erases_step silence step)

theorem lifts_run {trace : Trail} {target : Nat} (run : before.Run trace target) :
    ∃ trail index, after.Run trail index ∧ layout.Quiet trail ∧ layout.erase trail = trace ∧
      layout.silent index = false ∧ layout.origin index = target := by
  induction run with
  | start =>
      have nothing : layout.Quiet [] := fun _ _ inside => absurd inside List.not_mem_nil
      rcases between.settles .start nothing with
        ⟨trail, index, reached, quiet, erased, loud, originIs⟩
      rw [origin_zero] at originIs
      exact ⟨trail, index, reached, quiet, erased, loud, originIs⟩
  | @step trace target next edge _ step induction =>
      rcases induction with ⟨trail, index, reached, quiet, rfl, loud, rfl⟩
      rcases between.lifts_step loud step with ⟨place, rfl, taken⟩
      rcases between.settles (reached.step taken)
          (quiet_append.mpr ⟨quiet, quiet_kept edge loud⟩) with
        ⟨settled, final, reachedFinal, quietSettled, erased, loudFinal, originIs⟩
      refine ⟨settled, final, reachedFinal, quietSettled, ?_, loudFinal, originIs⟩
      rw [erased, erase_append, erase_kept _ loud]

/-- The trails of the original body are the trails of the woven one in which every guard that
was put in returns, with those guards left out. -/
theorem run_iff (trace : Trail) (target : Nat) :
    before.Run trace target ↔
      ∃ trail index, after.Run trail index ∧ layout.Quiet trail ∧
        layout.erase trail = trace ∧ layout.origin index = target := by
  constructor
  · intro run
    rcases between.lifts_run run with ⟨trail, index, reached, quiet, erased, _, originIs⟩
    exact ⟨trail, index, reached, quiet, erased, originIs⟩
  · rintro ⟨trail, index, reached, quiet, rfl, rfl⟩
    exact between.erases_run reached quiet

end Between

end Layout

end AccessWeave
