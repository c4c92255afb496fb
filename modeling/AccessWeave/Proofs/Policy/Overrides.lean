import AccessWeave.Proofs.Policy.Overlays
import AccessWeave.Proofs.Text.Pieces

/-!
# Overrides

An override sets what stands before its first equals sign to what stands behind it, both without
the blanks around them. Overrides are put on properties one after the other, up to the first that
has no equals sign. Those in front of it stay in force.
-/

namespace AccessWeave

namespace Properties

variable {argument key value : String} {overrides before : List String}

def OverrideSets (argument key value : String) : Prop :=
  ∃ before after, argument.toList = before ++ '=' :: after ∧ '=' ∉ before ∧
    key = String.ofList (Text.trim before) ∧ value = String.ofList (Text.trim after)

/-- The first override that has no equals sign, and those in front of it. -/
def FirstBroken (overrides before : List String) (argument : String) : Prop :=
  (∃ after, overrides = before ++ argument :: after) ∧
    (∀ other ∈ before, '=' ∈ other.toList) ∧ '=' ∉ argument.toList

theorem override_entry_iff (argument key value : String) :
    overrideEntry? argument = some (key, value) ↔ OverrideSets argument key value := by
  rw [OverrideSets, overrideEntry?, Option.map_eq_some_iff]
  constructor
  · rintro ⟨⟨before, after⟩, cut, texts⟩
    obtain ⟨separator, separates, split, none⟩ := Text.cut_once_eq_some_iff.mp cut
    obtain rfl : separator = '=' := of_decide_eq_true separates
    refine ⟨before, after, split, ?_, (Prod.mk.inj texts).1.symm, (Prod.mk.inj texts).2.symm⟩
    exact fun member => of_decide_eq_false (none '=' member) rfl
  · rintro ⟨before, after, split, none, rfl, rfl⟩
    refine ⟨(before, after), Text.cut_once_eq_some_iff.mpr ⟨'=', rfl, split, ?_⟩, rfl⟩
    intro character member
    exact decide_eq_false fun same => none (same ▸ member)

theorem override_entry_none_iff :
    overrideEntry? argument = none ↔ '=' ∉ argument.toList := by
  unfold overrideEntry?
  rw [Option.map_eq_none_iff, Text.cut_once_eq_none_iff]
  simp only [decide_eq_false_iff_not]
  constructor
  · exact fun none member => none '=' member rfl
  · exact fun none character member same => none (same ▸ member)

theorem apply_overrides_append (properties : Properties) (after : List String)
    (fine : ∀ argument ∈ before, '=' ∈ argument.toList) :
    properties.applyOverrides (before ++ after) =
      (properties.overlay (before.filterMap overrideEntry?)).applyOverrides after := by
  induction before generalizing properties with
  | nil => rfl
  | cons argument before induction =>
      rw [List.forall_mem_cons] at fine
      rw [List.cons_append, applyOverrides]
      split
      · next none => exact absurd fine.1 (override_entry_none_iff.mp none)
      · next key value given =>
          rw [induction (properties.insert key value) fine.2, List.filterMap_cons_some given,
            overlay_cons]

theorem apply_overrides_fine (properties : Properties)
    (fine : ∀ argument ∈ overrides, '=' ∈ argument.toList) :
    properties.applyOverrides overrides =
      (none, properties.overlay (overrides.filterMap overrideEntry?)) := by
  have all := apply_overrides_append properties [] fine
  rwa [List.append_nil] at all

theorem apply_overrides_broken (properties : Properties)
    (broken : FirstBroken overrides before argument) :
    properties.applyOverrides overrides =
      (some argument, properties.overlay (before.filterMap overrideEntry?)) := by
  obtain ⟨⟨after, rfl⟩, fine, noSign⟩ := broken
  rw [apply_overrides_append properties _ fine, applyOverrides,
    override_entry_none_iff.mpr noSign]

theorem fine_or_first_broken (overrides : List String) :
    (∀ argument ∈ overrides, '=' ∈ argument.toList) ∨
      ∃ before argument, FirstBroken overrides before argument := by
  induction overrides with
  | nil => exact .inl (by simp)
  | cons first overrides induction =>
      by_cases sign : '=' ∈ first.toList
      · rcases induction with fine | ⟨before, argument, ⟨after, split⟩, fine, noSign⟩
        · exact .inl (List.forall_mem_cons.mpr ⟨sign, fine⟩)
        · refine .inr ⟨first :: before, argument, ⟨after, ?_⟩, ?_, noSign⟩
          · rw [split, List.cons_append]
          · exact List.forall_mem_cons.mpr ⟨sign, fine⟩
      · exact .inr ⟨[], first, ⟨overrides, rfl⟩, by simp, sign⟩

theorem apply_overrides_fails_iff (properties : Properties) :
    (properties.applyOverrides overrides).1 = some argument ↔
      ∃ before, FirstBroken overrides before argument := by
  rcases fine_or_first_broken overrides with fine | ⟨front, first, broken⟩
  · rw [apply_overrides_fine properties fine]
    refine iff_of_false (by simp) ?_
    rintro ⟨before, ⟨after, rfl⟩, -, noSign⟩
    exact noSign (fine argument (List.mem_append_right _ List.mem_cons_self))
  · rw [apply_overrides_broken properties broken, Option.some.injEq]
    constructor
    · rintro rfl
      exact ⟨front, broken⟩
    · rintro ⟨before, brokenToo⟩
      have first := apply_overrides_broken properties broken
      rw [apply_overrides_broken properties brokenToo] at first
      exact (Option.some.inj (Prod.mk.inj first).1).symm

/-- Those in front of the first broken override stay on. -/
theorem apply_overrides_front (properties : Properties)
    (broken : FirstBroken overrides before argument) :
    properties.applyOverrides before = (none, (properties.applyOverrides overrides).2) := by
  rw [apply_overrides_fine properties broken.2.1, apply_overrides_broken properties broken]

theorem find_overrides_iff (properties : Properties)
    (fine : ∀ argument ∈ overrides, '=' ∈ argument.toList) :
    (properties.applyOverrides overrides).2.find? key = some value ↔
      LastSets OverrideSets overrides key value ∨
        NoneSets OverrideSets overrides key ∧ properties.find? key = some value := by
  rw [apply_overrides_fine properties fine, find_overlay, Option.or_eq_some_iff,
    find_of_list_iff override_entry_iff, find_of_list_none_iff override_entry_iff]

end Properties

end AccessWeave
