import AccessWeave.Proofs.Text.Pieces

/-!
# Lines

A text that is put together from items, each followed by a line end, has the items as its lines
exactly when no item holds a line end of its own. What an item holds more makes more lines.
-/

namespace AccessWeave.Text

/-- The lines of a text: what stands before each line end. -/
def linesOf (text : String) : List String :=
  ((pieces '\n' text.toList).dropLast).map String.ofList

/-- The lines that an item becomes. -/
def splitLines (item : String) : List String := (pieces '\n' item.toList).map String.ofList

theorem split_lines_of_quiet {item : String} (quiet : '\n' ∉ item.toList) :
    splitLines item = [item] := by
  rw [splitLines, pieces_whole quiet, List.map_singleton, String.ofList_toList]

theorem split_lines_length {item : String} (broken : '\n' ∈ item.toList) :
    1 < (splitLines item).length := by
  obtain ⟨before, after, split⟩ := List.mem_iff_append.mp broken
  have some := List.length_pos_iff.mpr (pieces_ne_nil '\n' before)
  have others := List.length_pos_iff.mpr (pieces_ne_nil '\n' after)
  rw [splitLines, split, pieces_append, List.length_map, List.length_append]
  omega

theorem split_lines_some (item : String) : 1 ≤ (splitLines item).length := by
  rw [splitLines, List.length_map]
  exact List.length_pos_iff.mpr (pieces_ne_nil '\n' item.toList)

theorem lines_of_items (items : List String) :
    linesOf (String.join (items.map fun item => item ++ "\n")) = items.flatMap splitLines := by
  induction items with
  | nil => rfl
  | cons item items induction =>
      rw [linesOf] at induction
      rw [linesOf, List.map_cons, String.join_cons, String.toList_append, String.toList_append,
        show "\n".toList = ['\n'] from rfl, List.append_assoc, List.singleton_append,
        pieces_append, List.dropLast_append_of_ne_nil (pieces_ne_nil '\n' _),
        List.map_append, induction, List.flatMap_cons]
      rfl

theorem lines_at_least (items : List String) :
    items.length ≤ (items.flatMap splitLines).length := by
  induction items with
  | nil => exact Nat.le_refl 0
  | cons item items induction =>
      have one := split_lines_some item
      rw [List.flatMap_cons, List.length_append, List.length_cons]
      omega

theorem lines_are_items_iff (items : List String) :
    linesOf (String.join (items.map fun item => item ++ "\n")) = items ↔
      ∀ item ∈ items, '\n' ∉ item.toList := by
  rw [lines_of_items]
  constructor
  · intro same
    induction items with
    | nil => exact fun _ member => absurd member List.not_mem_nil
    | cons item items induction =>
        rw [List.flatMap_cons] at same
        have quiet : '\n' ∉ item.toList := by
          intro broken
          have more := split_lines_length broken
          have others := lines_at_least items
          have lengths := congrArg List.length same
          rw [List.length_append, List.length_cons] at lengths
          omega
        rw [split_lines_of_quiet quiet, List.singleton_append, List.cons.injEq] at same
        rw [List.forall_mem_cons]
        exact ⟨quiet, induction same.2⟩
  · intro quiet
    induction items with
    | nil => rfl
    | cons item items induction =>
        rw [List.forall_mem_cons] at quiet
        rw [List.flatMap_cons, split_lines_of_quiet quiet.1, induction quiet.2,
          List.singleton_append]

end AccessWeave.Text
