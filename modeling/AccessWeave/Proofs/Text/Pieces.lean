import AccessWeave.Text.Split

/-!
# Cutting and joining

Cutting at a separator undoes joining with it as long as no piece holds the separator, and joining
always undoes cutting. A text that is cut once is cut at its first separator.
-/

namespace AccessWeave.Text

theorem pieces_eq_split_on (separator : Char) (characters : List Char) :
    pieces separator characters = characters.splitOn separator := by
  induction characters with
  | nil => rfl
  | cons character rest induction =>
      rw [pieces, List.splitOn_cons_eq_if_modifyHead, induction]
      by_cases same : character = separator
      · rw [if_pos same, if_pos (by simpa using same)]
      · rw [if_neg same, if_neg (by simpa using same)]
        cases pieces : rest.splitOn separator with
        | nil => exact absurd pieces (List.splitOn_ne_nil separator rest)
        | cons piece others => rfl

theorem pieces_ne_nil (separator : Char) (characters : List Char) :
    pieces separator characters ≠ [] := by
  rw [pieces_eq_split_on]
  exact List.splitOn_ne_nil separator characters

theorem join_pieces (separator : Char) (characters : List Char) :
    [separator].intercalate (pieces separator characters) = characters := by
  rw [pieces_eq_split_on]
  exact List.intercalate_splitOn separator

theorem pieces_join {separator : Char} {parts : List (List Char)}
    (whole : ∀ part ∈ parts, separator ∉ part) (some : parts ≠ []) :
    pieces separator ([separator].intercalate parts) = parts := by
  rw [pieces_eq_split_on]
  exact List.splitOn_intercalate separator whole some

theorem pieces_whole {separator : Char} {characters : List Char}
    (whole : separator ∉ characters) : pieces separator characters = [characters] := by
  have single : pieces separator ([separator].intercalate [characters]) = [characters] :=
    pieces_join (by simpa using whole) (by simp)
  rwa [List.intercalate_singleton] at single

theorem pieces_append (separator : Char) (first second : List Char) :
    pieces separator (first ++ separator :: second)
      = pieces separator first ++ pieces separator second := by
  rw [pieces_eq_split_on, pieces_eq_split_on, pieces_eq_split_on, List.splitOn_append_cons_self]

theorem separator_not_mem_piece {separator : Char} {characters piece : List Char}
    (member : piece ∈ pieces separator characters) : separator ∉ piece := by
  induction characters generalizing piece with
  | nil =>
      rw [pieces, List.mem_singleton] at member
      simp [member]
  | cons character rest induction =>
      rw [pieces] at member
      split at member
      · rcases List.mem_cons.mp member with rfl | later
        · exact List.not_mem_nil
        · exact induction later
      · next other =>
          cases cut : pieces separator rest with
          | nil => exact absurd cut (pieces_ne_nil separator rest)
          | cons next others =>
              rw [cut] at member induction
              rcases List.mem_cons.mp member with rfl | later
              · rw [List.mem_cons, not_or]
                exact ⟨Ne.symm other, induction List.mem_cons_self⟩
              · exact induction (List.mem_cons_of_mem _ later)

/-- The first separator is where a text is cut once. -/
theorem cut_once_of_first {isSeparator : Char → Bool} {before after : List Char}
    {separator : Char} (none : ∀ character ∈ before, isSeparator character = false)
    (separates : isSeparator separator = true) :
    cutOnce isSeparator (before ++ separator :: after) = some (before, after) := by
  induction before with
  | nil => rw [List.nil_append, cutOnce, if_pos separates]
  | cons character before induction =>
      rw [List.forall_mem_cons] at none
      rw [List.cons_append, cutOnce, none.1, if_neg Bool.false_ne_true, induction none.2]

theorem cut_once_eq_none_iff {isSeparator : Char → Bool} {characters : List Char} :
    cutOnce isSeparator characters = none ↔
      ∀ character ∈ characters, isSeparator character = false := by
  induction characters with
  | nil => simp [cutOnce]
  | cons character rest induction =>
      rw [cutOnce, List.forall_mem_cons, ← induction]
      cases isSeparator character with
      | true => simp
      | false => cases cutOnce isSeparator rest <;> simp

theorem cut_once_eq_some_iff {isSeparator : Char → Bool} {characters before after : List Char} :
    cutOnce isSeparator characters = some (before, after) ↔
      ∃ separator, isSeparator separator = true ∧ characters = before ++ separator :: after ∧
        ∀ character ∈ before, isSeparator character = false := by
  constructor
  · intro cut
    induction characters generalizing before with
    | nil => cases cut
    | cons character rest induction =>
        rw [cutOnce] at cut
        split at cut
        · next separates =>
            cases cut
            exact ⟨character, separates, rfl, by simp⟩
        · next spells =>
            split at cut
            · cases cut
            · next early late restCut =>
                cases cut
                obtain ⟨separator, separates, rfl, none⟩ := induction restCut
                refine ⟨separator, separates, rfl, ?_⟩
                rw [List.forall_mem_cons]
                exact ⟨by simpa using spells, none⟩
  · rintro ⟨separator, separates, rfl, none⟩
    exact cut_once_of_first none separates

theorem mem_join {separator character : Char} {parts : List (List Char)}
    (member : character ∈ [separator].intercalate parts) :
    character = separator ∨ ∃ part ∈ parts, character ∈ part := by
  induction parts with
  | nil => simp at member
  | cons part parts induction =>
      cases parts with
      | nil => exact .inr ⟨part, List.mem_cons_self, by simpa using member⟩
      | cons next others =>
          rw [List.intercalate_cons_cons, List.mem_append, List.mem_append] at member
          rcases member with (here | between) | later
          · exact .inr ⟨part, List.mem_cons_self, here⟩
          · exact .inl (List.mem_singleton.mp between)
          · rcases induction later with same | ⟨other, listed, inside⟩
            · exact .inl same
            · exact .inr ⟨other, List.mem_cons_of_mem _ listed, inside⟩

end AccessWeave.Text
