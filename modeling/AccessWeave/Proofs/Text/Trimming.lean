import AccessWeave.Text.Blank
import Mathlib.Data.List.DropRight

/-!
# Trimming

Trimming takes off the blanks at both ends and nothing else, and what is left has none there. Where
a text begins with a character that is no blank, so does the trimmed one.
-/

namespace AccessWeave.Text

variable {characters front back : List Char}

/-- A text with no blank at its ends. -/
def Trimmed (characters : List Char) : Prop :=
  (∀ character ∈ characters.head?, isBlank character = false) ∧
    ∀ character ∈ characters.getLast?, isBlank character = false

instance (characters : List Char) : Decidable (Trimmed characters) :=
  decidable_of_iff
    (characters.head?.all (!isBlank ·) = true ∧ characters.getLast?.all (!isBlank ·) = true)
    (by simp [Trimmed, Option.all_eq_true])

theorem trim_eq (characters : List Char) :
    trim characters = (characters.dropWhile isBlank).rdropWhile isBlank :=
  rfl

theorem trim_blank_append (blankFront : ∀ character ∈ front, isBlank character = true)
    (characters : List Char) : trim (front ++ characters) = trim characters := by
  rw [trim_eq, List.dropWhile_append_of_pos blankFront, ← trim_eq]

theorem trim_append_blank (blankBack : ∀ character ∈ back, isBlank character = true)
    (characters : List Char) : trim (characters ++ back) = trim characters := by
  rw [trim_eq, trim_eq, List.dropWhile_append]
  split
  · next empty =>
      rw [List.isEmpty_iff.mp empty, List.rdropWhile_nil, List.rdropWhile_eq_nil_iff]
      exact fun character member => blankBack character ((List.dropWhile_sublist _).mem member)
  · rw [List.rdropWhile, List.reverse_append,
      List.dropWhile_append_of_pos (by simpa using blankBack), ← List.rdropWhile]

theorem drop_while_of_solid (solid : ∀ character ∈ characters.head?, isBlank character = false) :
    characters.dropWhile isBlank = characters := by
  cases characters with
  | nil => rfl
  | cons first rest => rw [List.dropWhile_cons_of_neg (by simp [solid first rfl])]

theorem trim_of_trimmed (trimmed : Trimmed characters) : trim characters = characters := by
  rw [trim_eq, drop_while_of_solid trimmed.1, List.rdropWhile_eq_self_iff]
  intro filled
  rw [trimmed.2 _ (List.getLast?_eq_some_getLast filled)]
  exact Bool.false_ne_true

theorem trim_eq_nil_iff :
    trim characters = [] ↔ ∀ character ∈ characters, isBlank character = true := by
  rw [trim_eq, List.rdropWhile_eq_nil_iff]
  constructor
  · intro blank
    cases rest : characters.dropWhile isBlank with
    | nil => exact List.dropWhile_eq_nil_iff.mp rest
    | cons first others =>
        have shown := List.head?_dropWhile_not isBlank characters
        simp only [rest, List.head?_cons] at shown
        rw [blank first (by simp [rest])] at shown
        cases shown
  · exact fun blank character member => blank character ((List.dropWhile_sublist _).mem member)

theorem head_drop_right (solid : ∀ character ∈ characters.head?, isBlank character = false) :
    (characters.rdropWhile isBlank).head? = characters.head? := by
  cases characters with
  | nil => rfl
  | cons first rest =>
      obtain ⟨ending, whole⟩ := List.rdropWhile_prefix isBlank (first :: rest)
      cases kept : (first :: rest).rdropWhile isBlank with
      | nil =>
          have blank := List.rdropWhile_eq_nil_iff.mp kept first List.mem_cons_self
          rw [solid first rfl] at blank
          cases blank
      | cons head others =>
          rw [kept, List.cons_append, List.cons.injEq] at whole
          rw [whole.1, List.head?_cons, List.head?_cons]

/-- What a text begins with stays unless it is blank. -/
theorem head_trim (solid : ∀ character ∈ characters.head?, isBlank character = false) :
    (trim characters).head? = characters.head? := by
  rw [trim_eq, drop_while_of_solid solid, head_drop_right solid]

theorem trim_trimmed (characters : List Char) : Trimmed (trim characters) := by
  have solid : ∀ character ∈ (characters.dropWhile isBlank).head?,
      isBlank character = false := by
    intro character first
    have shown := List.head?_dropWhile_not isBlank characters
    rwa [Option.mem_def.mp first] at shown
  constructor
  · rw [trim_eq, head_drop_right solid]
    exact solid
  · intro character last
    have some : trim characters ≠ [] := by
      intro empty
      simp [empty] at last
    rw [List.getLast?_eq_some_getLast some, Option.mem_some_iff] at last
    rw [← last]
    exact Bool.eq_false_iff.mpr (List.rdropWhile_last_not isBlank _ some)

theorem mem_of_mem_trim {character : Char} (member : character ∈ trim characters) :
    character ∈ characters :=
  (List.dropWhile_sublist _).mem ((List.rdropWhile_prefix _ _).mem member)

end AccessWeave.Text
