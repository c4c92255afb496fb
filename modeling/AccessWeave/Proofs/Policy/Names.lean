import AccessWeave.Proofs.Policy.AllowList
import AccessWeave.Proofs.Text.Pieces
import AccessWeave.Proofs.Text.Trimming
import Mathlib.Data.List.Basic

/-!
# Names of principals

A text names a principal when it is the word module, one space and a dotted name: segments joined
by points, each of which begins with a letter, an underscore or a dollar sign and goes on with
those and numerals. Reading accepts exactly these texts. No blank and no comma is a letter or a
numeral, so a dotted name holds neither.
-/

namespace AccessWeave

/-- A part of a name between points. -/
def Segment (characters : List Char) : Prop :=
  ∃ first rest, characters = first :: rest ∧
    (Text.isLetter first = true ∨ first = '_' ∨ first = '$') ∧
    ∀ character ∈ rest, Text.isLetter character = true ∨ Text.isNumeral character = true ∨
      character = '_' ∨ character = '$'

/-- At least one segment, with points between the segments. -/
def DottedName (name : String) : Prop :=
  ∃ segments, segments ≠ [] ∧ (∀ segment ∈ segments, Segment segment) ∧
    name.toList = ['.'].intercalate segments

/-- The form in which configuration names a principal. -/
def NamesPrincipal (entry : String) : Prop :=
  ∃ name, DottedName name ∧ entry = "module " ++ name

theorem is_segment_iff {characters : List Char} :
    isSegment characters = true ↔ Segment characters := by
  cases characters with
  | nil => simp [isSegment, Segment]
  | cons first rest =>
      simp only [isSegment, Segment, beginsSegment, continuesSegment, Bool.and_eq_true,
        Bool.or_eq_true, decide_eq_true_eq, List.all_eq_true, List.cons.injEq]
      grind

theorem continues_of_segment {segment : List Char} (valid : Segment segment) :
    ∀ character ∈ segment, continuesSegment character = true := by
  obtain ⟨first, rest, rfl, begins, continues⟩ := valid
  simp only [continuesSegment, beginsSegment, Bool.or_eq_true, decide_eq_true_eq,
    List.forall_mem_cons]
  grind

theorem point_not_mem_segment {segment : List Char} (valid : Segment segment) :
    '.' ∉ segment := by
  intro member
  have continues := continues_of_segment valid '.' member
  exact absurd continues (by decide +kernel)

theorem is_module_name_iff {name : String} :
    isModuleName name.toList = true ↔ DottedName name := by
  rw [isModuleName, List.all_eq_true]
  simp only [is_segment_iff]
  constructor
  · intro valid
    exact ⟨_, Text.pieces_ne_nil '.' name.toList, valid, (Text.join_pieces '.' name.toList).symm⟩
  · rintro ⟨segments, some, valid, joined⟩
    rw [joined, Text.pieces_join (fun segment member => point_not_mem_segment
      (valid segment member)) some]
    exact valid

/-! ### Reading -/

theorem Principal.text_eq (principal : Principal) :
    principal.text = "module " ++ principal.name := by
  rw [Principal.text, show (keyword ++ " " : String) = "module " from rfl]

theorem Principal.text_injective {left right : Principal} (same : left.text = right.text) :
    left = right := by
  rw [text_eq, text_eq, String.append_right_inj] at same
  cases left
  cases right
  exact congrArg Principal.mk same

theorem Principal.text_ne_empty (principal : Principal) : principal.text ≠ "" := by
  intro empty
  have lengths := congrArg String.length empty
  simp [text_eq] at lengths

theorem parse_ok_iff {value : String} {principal : Principal} :
    Principal.parse value = .ok principal ↔
      value = principal.text ∧ DottedName principal.name := by
  constructor
  · intro parsed
    refine ⟨(text_of_parse parsed).symm, ?_⟩
    unfold Principal.parse at parsed
    split at parsed
    · cases parsed
    · split at parsed
      · next before name cut valid =>
          cases parsed
          rw [← is_module_name_iff, String.toList_ofList]
          exact valid.2
      · cases parsed
  · rintro ⟨rfl, valid⟩
    have cut : Text.cutOnce (· = ' ') principal.text.toList
        = some (Principal.keyword.toList, principal.name.toList) := by
      rw [Principal.text, String.toList_append, String.toList_append, List.append_assoc]
      exact Text.cut_once_of_first (by simp [Principal.keyword]) (by decide)
    unfold Principal.parse
    rw [cut]
    simp only [is_module_name_iff.mpr valid, and_self, if_true, String.ofList_toList]

theorem names_principal_iff {entry : String} :
    NamesPrincipal entry ↔ ∃ principal, Principal.parse entry = .ok principal := by
  simp only [parse_ok_iff, Principal.text_eq, NamesPrincipal]
  constructor
  · rintro ⟨name, valid, rfl⟩
    exact ⟨⟨name⟩, rfl, valid⟩
  · rintro ⟨principal, rfl, valid⟩
    exact ⟨principal.name, valid, rfl⟩

theorem parse_error_iff {value : String} {error : NotAPrincipal} :
    Principal.parse value = .error error ↔ ¬NamesPrincipal value ∧ error = ⟨value⟩ := by
  have verbatim : ∀ {other}, Principal.parse value = .error other → other = ⟨value⟩ := by
    intro other failed
    unfold Principal.parse at failed
    split at failed
    · exact (Except.error.inj failed).symm
    · split at failed
      · cases failed
      · exact (Except.error.inj failed).symm
  rw [names_principal_iff]
  cases parsed : Principal.parse value with
  | ok principal => simp
  | error other => simp [verbatim parsed, eq_comm]

/-! ### Characters of a name -/

/-- The code points of a table of ranges, one by one. -/
def Text.codesOf (ranges : List (Nat × Nat)) : List Nat :=
  ranges.flatMap fun range => List.range' range.1 (range.2 + 1 - range.1)

theorem Text.mem_codes_of_within {ranges : List (Nat × Nat)} {code : Nat}
    (within : withinRanges ranges code = true) : code ∈ codesOf ranges := by
  induction ranges with
  | nil => cases within
  | cons range ranges induction =>
      rw [codesOf, List.flatMap_cons, List.mem_append]
      rw [withinRanges] at within
      split at within
      · cases within
      · split at within
        · left
          rw [List.mem_range'_1]
          omega
        · exact .inr (induction within)

/-- Whoever spells a name does not separate. -/
theorem not_blank_of_continues {character : Char}
    (continues : continuesSegment character = true) : Text.isBlank character = false := by
  have codes : ∀ code ∈ Text.codesOf Text.blankRanges,
      Text.withinRanges Text.letterRanges code = false ∧
        Text.withinRanges Text.numeralRanges code = false ∧
        code ≠ '_'.toNat ∧ code ≠ '$'.toNat := by decide +kernel
  rw [← Bool.not_eq_true]
  intro blank
  obtain ⟨noLetter, noNumeral, noLine, noDollar⟩ := codes _ (Text.mem_codes_of_within blank)
  simp only [continuesSegment, beginsSegment, Text.isLetter, Text.isNumeral, noLetter, noNumeral,
    Bool.or_false, Bool.false_or, Bool.or_eq_true, decide_eq_true_eq] at continues
  rcases continues with rfl | rfl
  · exact noLine rfl
  · exact noDollar rfl

theorem DottedName.characters {name : String} (valid : DottedName name) :
    ∀ character ∈ name.toList, Text.isBlank character = false ∧ character ≠ ',' := by
  obtain ⟨segments, -, each, joined⟩ := valid
  intro character member
  rw [joined] at member
  rcases Text.mem_join member with rfl | ⟨segment, listed, inside⟩
  · decide
  · have continues := continues_of_segment (each segment listed) character inside
    refine ⟨not_blank_of_continues continues, ?_⟩
    rintro rfl
    exact absurd continues (by decide +kernel)

theorem DottedName.ne_nil {name : String} (valid : DottedName name) : name.toList ≠ [] := by
  obtain ⟨segments, some, each, joined⟩ := valid
  intro empty
  have whole := Text.pieces_join (fun segment member => point_not_mem_segment
    (each segment member)) some
  rw [← joined, empty, Text.pieces] at whole
  obtain ⟨first, rest, filled, -⟩ := each [] (by rw [← whole]; exact List.mem_cons_self)
  cases filled

/-- A principal can stand in a list: nothing in it separates, and trimming leaves it alone. -/
theorem text_characters {principal : Principal} (valid : DottedName principal.name) :
    ',' ∉ principal.text.toList ∧ Text.trim principal.text.toList = principal.text.toList := by
  rw [Principal.text_eq, String.toList_append]
  constructor
  · rw [List.mem_append, not_or]
    refine ⟨by decide, ?_⟩
    intro member
    exact (valid.characters ',' member).2 rfl
  · apply Text.trim_of_trimmed
    constructor
    · intro character first
      rw [show "module ".toList = 'm' :: "odule ".toList from rfl, List.cons_append,
        List.head?_cons, Option.mem_some_iff] at first
      rw [← first]
      decide
    · intro character last
      rw [List.getLast?_append_of_ne_nil _ valid.ne_nil] at last
      exact (valid.characters character (List.mem_of_getLast? last)).1

end AccessWeave
