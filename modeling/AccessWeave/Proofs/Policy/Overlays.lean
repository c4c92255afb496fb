import AccessWeave.Proofs.Policy.Lookup
import Mathlib.Data.List.Nodup

/-!
# The last entry decides

Lines, environment variables and overrides are items that may each set a key to a text. Of several
items that set one key the last decides, and a key that none of them sets keeps the text that it
had before. Where items that set one key agree, their order is immaterial.
-/

namespace AccessWeave

section

variable {Item : Type} {sets : Item → String → String → Prop} {items : List Item} {item : Item}
  {key value : String}

/-- Of the items that set the key, the last one sets it to this text. -/
def LastSets (sets : Item → String → String → Prop) (items : List Item) (key value : String) :
    Prop :=
  ∃ front item back, items = front ++ item :: back ∧ sets item key value ∧
    ∀ later ∈ back, ∀ other, ¬sets later key other

def NoneSets (sets : Item → String → String → Prop) (items : List Item) (key : String) : Prop :=
  ∀ item ∈ items, ∀ value, ¬sets item key value

theorem last_sets_cons :
    LastSets sets (item :: items) key value ↔
      LastSets sets items key value ∨ sets item key value ∧ NoneSets sets items key := by
  constructor
  · rintro ⟨_ | ⟨first, front⟩, chosen, back, split, chosenSets, none⟩
    · rw [List.nil_append, List.cons.injEq] at split
      obtain ⟨rfl, rfl⟩ := split
      exact .inr ⟨chosenSets, none⟩
    · rw [List.cons_append, List.cons.injEq] at split
      exact .inl ⟨front, chosen, back, split.2, chosenSets, none⟩
  · rintro (⟨front, chosen, back, rfl, chosenSets, none⟩ | ⟨itemSets, none⟩)
    · exact ⟨item :: front, chosen, back, rfl, chosenSets, none⟩
    · exact ⟨[], item, items, rfl, itemSets, none⟩

theorem none_sets_cons :
    NoneSets sets (item :: items) key ↔
      (∀ value, ¬sets item key value) ∧ NoneSets sets items key :=
  List.forall_mem_cons

/-- Either some item is the last to set the key, or none sets it. -/
theorem last_or_none_sets (sets : Item → String → String → Prop) (items : List Item)
    (key : String) : (∃ value, LastSets sets items key value) ∨ NoneSets sets items key := by
  induction items with
  | nil => exact .inr (by simp [NoneSets])
  | cons item items induction =>
      rcases induction with ⟨value, last⟩ | none
      · exact .inl ⟨value, last_sets_cons.mpr (.inl last)⟩
      · by_cases some : ∃ value, sets item key value
        · obtain ⟨value, itemSets⟩ := some
          exact .inl ⟨value, last_sets_cons.mpr (.inr ⟨itemSets, none⟩)⟩
        · exact .inr (none_sets_cons.mpr ⟨not_exists.mp some, none⟩)

theorem none_sets_iff : NoneSets sets items key ↔ ∀ value, ¬LastSets sets items key value := by
  constructor
  · rintro none value ⟨front, chosen, back, rfl, chosenSets, -⟩
    exact none chosen (List.mem_append_right _ List.mem_cons_self) value chosenSets
  · intro noLast
    rcases last_or_none_sets sets items key with ⟨value, last⟩ | none
    · exact absurd last (noLast value)
    · exact none

theorem eq_none_iff_of_last {found : Option String}
    (last : ∀ value, found = some value ↔ LastSets sets items key value) :
    found = none ↔ NoneSets sets items key := by
  rw [none_sets_iff, Option.eq_none_iff_forall_ne_some]
  exact forall_congr' fun value => not_congr (last value)

/-- Where the items that set the key agree, any of them decides. -/
theorem last_sets_iff_of_agree
    (agree : ∀ first ∈ items, ∀ second ∈ items, ∀ text other,
      sets first key text → sets second key other → text = other) :
    LastSets sets items key value ↔ ∃ item ∈ items, sets item key value := by
  have member : ∀ {text}, LastSets sets items key text → ∃ item ∈ items, sets item key text := by
    rintro text ⟨front, chosen, back, rfl, chosenSets, -⟩
    exact ⟨chosen, List.mem_append_right _ List.mem_cons_self, chosenSets⟩
  refine ⟨member, ?_⟩
  rintro ⟨item, listed, itemSets⟩
  rcases last_or_none_sets sets items key with ⟨text, last⟩ | none
  · obtain ⟨chosen, listedToo, chosenSets⟩ := member last
    rwa [agree item listed chosen listedToo value text itemSets chosenSets]
  · exact absurd itemSets (none item listed value)

end

namespace Properties

variable {Item : Type} {sets : Item → String → String → Prop} {items : List Item}
  {pair? : Item → Option (String × String)} {properties : Properties} {key value : String}

theorem ext_find {left right : Properties} (same : ∀ key, left.find? key = right.find? key) :
    left = right := by
  have entries : left.entries = right.entries := by
    apply ascending_ext left.ascending right.ascending
    rintro ⟨key, value⟩
    rw [← find_some_iff, ← find_some_iff, same key]
  cases left
  cases right
  cases entries
  rfl

theorem overlay_cons (properties : Properties) (entry : String × String)
    (entries : List (String × String)) :
    properties.overlay (entry :: entries) = (properties.insert entry.1 entry.2).overlay entries :=
  rfl

theorem overlay_append (properties : Properties) (earlier later : List (String × String)) :
    properties.overlay (earlier ++ later) = (properties.overlay earlier).overlay later :=
  List.foldl_append

/-- Entries on top decide where they say something. -/
theorem find_overlay (properties : Properties) (entries : List (String × String)) (key : String) :
    (properties.overlay entries).find? key =
      ((ofList entries).find? key).or (properties.find? key) := by
  induction entries generalizing properties with
  | nil => rw [ofList, overlay, overlay, List.foldl_nil, List.foldl_nil, find_empty, Option.none_or]
  | cons entry entries induction =>
      rw [ofList, overlay_cons, overlay_cons, induction, induction (empty.insert _ _),
        Option.or_assoc, find_insert, find_insert, find_empty]
      split <;> rfl

/-- What is looked up is what the last item that sets the key sets it to. -/
theorem find_of_list_iff (means : ∀ item key value, pair? item = some (key, value) ↔
    sets item key value) :
    (ofList (items.filterMap pair?)).find? key = some value ↔ LastSets sets items key value := by
  induction items generalizing value with
  | nil =>
      refine iff_of_false (by simp [ofList, overlay, find_empty]) ?_
      rintro ⟨front, chosen, back, split, -⟩
      simp at split
  | cons item items induction =>
      have silent : (ofList (items.filterMap pair?)).find? key = none ↔
          NoneSets sets items key := eq_none_iff_of_last fun value => induction
      rw [last_sets_cons, ← induction, ← silent, ← means]
      cases given : pair? item with
      | none => simp [List.filterMap_cons_none given]
      | some entry =>
          rw [List.filterMap_cons_some given, ofList, overlay_cons, find_overlay, find_insert,
            find_empty, Option.or_eq_some_iff, Option.some.injEq]
          obtain ⟨name, content⟩ := entry
          by_cases same : key = name
          · simp [same, and_comm]
          · simp [same, Ne.symm same]

theorem find_of_list_none_iff (means : ∀ item key value, pair? item = some (key, value) ↔
    sets item key value) :
    (ofList (items.filterMap pair?)).find? key = none ↔ NoneSets sets items key :=
  eq_none_iff_of_last fun _ => find_of_list_iff means

/-- Entries whose keys differ are all found. -/
theorem find_of_list_of_distinct {entries : List (String × String)}
    (distinct : (entries.map Prod.fst).Nodup) :
    (ofList entries).find? key = some value ↔ (key, value) ∈ entries := by
  have found : (ofList (entries.filterMap some)).find? key = some value ↔
      LastSets (fun entry key value => entry = (key, value)) entries key value :=
    find_of_list_iff (by simp)
  rw [List.filterMap_some] at found
  rw [found, last_sets_iff_of_agree]
  · simp
  · rintro first listed second listedToo text other rfl rfl
    exact congrArg Prod.snd (List.inj_on_of_nodup_map distinct listed listedToo rfl)

theorem of_list_entries (properties : Properties) : ofList properties.entries = properties := by
  have distinct : (properties.entries.map Prod.fst).Nodup := by
    apply List.Pairwise.map Prod.fst _ properties.ascending
    rintro first second below same
    rw [same] at below
    exact String.lt_irrefl _ below
  apply ext_find
  intro key
  apply Option.ext
  intro value
  rw [find_of_list_of_distinct distinct, find_some_iff]

theorem find_overlay_entries (properties later : Properties) (key : String) :
    (properties.overlay later.entries).find? key = (later.find? key).or (properties.find? key) := by
  rw [find_overlay, of_list_entries]

end Properties

end AccessWeave
