/-!
Lists that ascend strictly by a text key. Such a list is a set, or a map from its keys, with
one form for each content; texts are compared code point by code point. Inserting keeps the
order and replaces the value that has the same key.
-/

namespace AccessWeave

/-- Every key is smaller than all later ones, so no key occurs twice. -/
def Ascending {Value : Type} (key : Value → String) (values : List Value) : Prop :=
  values.Pairwise fun earlier later => key earlier < key later

def insertAscending {Value : Type} (key : Value → String) (value : Value) :
    List Value → List Value
  | [] => [value]
  | head :: rest =>
      if key value < key head then value :: head :: rest
      else if key head < key value then head :: insertAscending key value rest
      else value :: rest

theorem key_eq_of_not_lt {left right : String} (notBelow : ¬ left < right)
    (notAbove : ¬ right < left) : left = right :=
  String.le_antisymm notAbove notBelow

theorem mem_insert_ascending {Value : Type} {key : Value → String} {value item : Value}
    {values : List Value} (member : item ∈ insertAscending key value values) :
    item = value ∨ item ∈ values := by
  induction values with
  | nil => simpa [insertAscending] using member
  | cons head rest induction =>
      simp only [insertAscending] at member
      split at member
      · simpa using member
      · split at member
        · rcases List.mem_cons.mp member with same | later
          · exact Or.inr (by simp [same])
          · rcases induction later with same | inside
            · exact Or.inl same
            · exact Or.inr (by simp [inside])
        · rcases List.mem_cons.mp member with same | later
          · exact Or.inl same
          · exact Or.inr (by simp [later])

theorem mem_insert_ascending_of_other {Value : Type} {key : Value → String} {value item : Value}
    {values : List Value} (member : item ∈ values) (different : key item ≠ key value) :
    item ∈ insertAscending key value values := by
  induction values with
  | nil => cases member
  | cons head rest induction =>
      simp only [insertAscending]
      split
      · exact List.mem_cons_of_mem _ member
      · next notBelow =>
          rcases List.mem_cons.mp member with same | later
          · split
            · exact List.mem_cons.mpr (Or.inl same)
            · next notAbove =>
                rw [same] at different
                exact absurd (key_eq_of_not_lt notAbove notBelow) different
          · split
            · exact List.mem_cons_of_mem _ (induction later)
            · exact List.mem_cons_of_mem _ later

theorem insert_ascending {Value : Type} {key : Value → String} (value : Value)
    {values : List Value} (ascending : Ascending key values) :
    Ascending key (insertAscending key value values) := by
  induction values with
  | nil => exact List.pairwise_singleton _ _
  | cons head rest induction =>
      have parts := List.pairwise_cons.mp ascending
      simp only [insertAscending]
      split
      · next below =>
          refine List.pairwise_cons.mpr ⟨?_, ascending⟩
          intro item member
          rcases List.mem_cons.mp member with same | later
          · rw [same]
            exact below
          · exact String.lt_trans below (parts.1 item later)
      · next notBelow =>
          split
          · next above =>
              refine List.pairwise_cons.mpr ⟨?_, induction parts.2⟩
              intro item member
              rcases mem_insert_ascending member with same | inside
              · rw [same]
                exact above
              · exact parts.1 item inside
          · next notAbove =>
              refine List.pairwise_cons.mpr ⟨?_, parts.2⟩
              intro item member
              rw [key_eq_of_not_lt notBelow notAbove]
              exact parts.1 item member

/-- The values in ascending order, of several with one key the last. -/
def ascendingOf {Value : Type} (key : Value → String) (values : List Value) : List Value :=
  values.foldl (fun kept value => insertAscending key value kept) []

theorem ascending_of_ascending {Value : Type} (key : Value → String) (values : List Value) :
    Ascending key (ascendingOf key values) := by
  suffices fromKept : ∀ kept, Ascending key kept →
      Ascending key (values.foldl (fun kept value => insertAscending key value kept) kept) from
    fromKept [] List.Pairwise.nil
  induction values with
  | nil => exact fun _ ascending => ascending
  | cons value values induction =>
      exact fun _ ascending => induction _ (insert_ascending value ascending)

def ascendingTexts (texts : List String) : List String := ascendingOf id texts

end AccessWeave
