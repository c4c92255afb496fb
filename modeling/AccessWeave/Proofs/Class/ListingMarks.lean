import AccessWeave.Class.Listing
import AccessWeave.Proofs.Text.Lines
import Mathlib.Tactic.SplitIfs

/-!
# Marks in a listing

A call that asks the guard or performs an operation ends in a mark, which begins with a semicolon.
Some parts of a listing separate: behind them only what follows can end in a mark. Others are
quiet: numbers, labels and literals that are not texts hold neither a line end nor a semicolon.
-/

namespace AccessWeave

/-! ### Marks -/

inductive Mark
  | guard
  | operation (operation : Operation)
  deriving DecidableEq

namespace Mark

def all : List Mark := guard :: Operation.all.map operation

def text : Mark → String
  | guard => "; guard"
  | operation performed => "; " ++ performed.displayName

def signature : Mark → Signature
  | guard => guardEntry
  | operation performed => performed.signature

theorem mem_all (mark : Mark) : mark ∈ all := by
  rcases mark with - | (- | - | -) <;> decide

theorem signature_injective {left right : Mark} (same : left.signature = right.signature) :
    left = right := by
  have each : ∀ left ∈ all, ∀ right ∈ all, left.signature = right.signature → left = right := by
    decide
  exact each left left.mem_all right right.mem_all same

end Mark

/-- The text ends in the mark. -/
def EndsIn (text : String) (mark : Mark) : Prop := mark.text.toList <:+ text.toList

theorem ends_in_mark_iff {left right : Mark} : EndsIn left.text right ↔ left = right := by
  have each : ∀ left ∈ Mark.all, ∀ right ∈ Mark.all,
      right.text.toList <:+ left.text.toList ↔ left = right := by decide +kernel
  exact each left left.mem_all right right.mem_all

/-- A text does not reach into a mark when it does not begin one and lies inside none. -/
def Separates (text : String) : Prop :=
  ';' ∉ text.toList ∧ ∀ mark ∈ Mark.all, ¬text.toList <:+: mark.text.toList

instance (text : String) : Decidable (Separates text) :=
  inferInstanceAs (Decidable (_ ∧ _))

theorem mark_begins (mark : Mark) : ∃ rest, mark.text.toList = ';' :: rest := by
  cases mark with
  | guard => exact ⟨_, rfl⟩
  | operation performed =>
      rw [Mark.text, String.toList_append]
      exact ⟨_, rfl⟩

/-- Behind what separates, only what follows can end in a mark. -/
theorem ends_in_behind {separator : String} (separates : Separates separator)
    (front back : String) (mark : Mark) :
    EndsIn (front ++ separator ++ back) mark ↔ EndsIn back mark := by
  rw [EndsIn, EndsIn, String.toList_append, String.toList_append]
  refine ⟨?_, fun ends => ends.trans (List.suffix_append _ _)⟩
  intro ends
  rcases List.suffix_or_suffix_of_suffix ends (List.suffix_append _ back.toList) with
    inside | ⟨start, whole⟩
  · exact inside
  · obtain ⟨rest, all⟩ := ends
    rw [← whole, ← List.append_assoc, List.append_left_inj] at all
    have reaching : start <:+ front.toList ++ separator.toList := ⟨rest, all⟩
    rcases List.suffix_or_suffix_of_suffix reaching (List.suffix_append _ separator.toList) with
      within | around
    · cases start with
      | nil => exact ⟨[], whole.symm⟩
      | cons first others =>
          -- The mark would begin inside the separator.
          obtain ⟨behind, begins⟩ := mark_begins mark
          rw [begins, List.cons_append, List.cons.injEq] at whole
          rw [whole.1] at within
          exact absurd (within.subset List.mem_cons_self) separates.1
    · refine absurd ?_ (separates.2 mark mark.mem_all)
      rw [← whole]
      exact around.isInfix.trans (List.prefix_append start back.toList).isInfix

theorem not_ends_in_of_plain {text : String} (plain : ';' ∉ text.toList) (mark : Mark) :
    ¬EndsIn text mark := by
  intro ends
  obtain ⟨rest, begins⟩ := mark_begins mark
  rw [EndsIn, begins] at ends
  exact plain (ends.subset List.mem_cons_self)

theorem not_ends_in_empty (mark : Mark) : ¬EndsIn "" mark :=
  not_ends_in_of_plain (by decide) mark

/-! ### Texts without line ends and marks -/

/-- The text neither ends a line nor begins a mark. -/
def Quiet (text : String) : Prop := '\n' ∉ text.toList ∧ ';' ∉ text.toList

instance (text : String) : Decidable (Quiet text) := inferInstanceAs (Decidable (_ ∧ _))

theorem Quiet.append {left right : String} (first : Quiet left) (second : Quiet right) :
    Quiet (left ++ right) := by
  rw [Quiet, String.toList_append, List.mem_append, List.mem_append, not_or, not_or]
  exact ⟨⟨first.1, second.1⟩, first.2, second.2⟩

theorem quiet_of_list {characters : List Char}
    (each : ∀ character ∈ characters, character ≠ '\n' ∧ character ≠ ';') :
    Quiet (String.ofList characters) := by
  rw [Quiet, String.toList_ofList]
  exact ⟨fun member => (each _ member).1 rfl, fun member => (each _ member).2 rfl⟩

theorem quiet_join {texts : List String} (each : ∀ text ∈ texts, Quiet text) :
    Quiet (String.join texts) := by
  induction texts with
  | nil => decide
  | cons text texts induction =>
      rw [List.forall_mem_cons] at each
      rw [String.join_cons]
      exact each.1.append (induction each.2)

theorem quiet_intercalate {separator : String} {texts : List String} (between : Quiet separator)
    (each : ∀ text ∈ texts, Quiet text) : Quiet (String.intercalate separator texts) := by
  induction texts with
  | nil =>
      rw [String.intercalate_nil]
      decide
  | cons text texts induction =>
      rw [List.forall_mem_cons] at each
      cases texts with
      | nil => simpa using each.1
      | cons next others =>
          rw [String.intercalate_cons_cons]
          exact (each.1.append between).append (induction each.2)

theorem quiet_natural (value : Nat) : Quiet (toString value) := by
  have digits : ∀ character ∈ (toString value).toList, character.isDigit = true := by
    intro character member
    rw [Nat.toString_eq_repr, Nat.toList_repr] at member
    exact Nat.isDigit_of_mem_toDigits (by decide) (by decide) member
  constructor
  · intro member
    exact absurd (digits _ member) (by decide)
  · intro member
    exact absurd (digits _ member) (by decide)

theorem quiet_integer (value : Int) : Quiet (toString value) := by
  cases value with
  | ofNat natural => exact quiet_natural natural
  | negSucc natural =>
      have minus : Quiet "-" := by decide
      exact minus.append (quiet_natural (natural + 1))

theorem quiet_label (label : Label) : Quiet label.text := by
  have letter : Quiet "L" := by decide
  exact letter.append (quiet_natural _)

theorem quiet_hex_digit :
    ∀ value < 16, Text.hexDigit value ≠ '\n' ∧ Text.hexDigit value ≠ ';' := by
  decide

theorem quiet_hex_byte (byte : UInt8) : Quiet (Text.hexByte byte) := by
  have small := byte.toNat_lt
  apply quiet_of_list
  intro character member
  simp only [List.mem_cons, List.not_mem_nil, or_false] at member
  rcases member with rfl | rfl
  · exact quiet_hex_digit _ (by omega)
  · exact quiet_hex_digit _ (by omega)

theorem quiet_digit_text (digits : List Decimal.Digit) : Quiet (Decimal.digitText digits) := by
  have each : ∀ digit, Decimal.digitChar digit ≠ '\n' ∧ Decimal.digitChar digit ≠ ';' := by decide
  apply quiet_of_list
  intro character member
  obtain ⟨digit, -, rfl⟩ := List.mem_map.mp member
  exact each digit

theorem quiet_plain_text (format : Decimal.BinaryFormat) (pattern : Nat) :
    Quiet (Decimal.plainText format pattern) := by
  rw [Decimal.plainText]
  split
  · decide
  · split <;> decide
  · have sign : Quiet (if format.isNegative pattern then "-" else "") := by
      split <;> decide
    have fraction : ∀ digits : List Decimal.Digit,
        Quiet (if digits.isEmpty then "" else "." ++ Decimal.digitText digits) := by
      intro digits
      have point : Quiet "." := by decide
      split
      · decide
      · exact point.append (quiet_digit_text digits)
    exact (sign.append (quiet_digit_text _)).append (fraction _)

theorem quiet_align_right {text : String} (quiet : Quiet text) (width : Nat) :
    Quiet (Text.alignRight width text) := by
  refine Quiet.append (quiet_of_list ?_) quiet
  intro character member
  rw [(List.mem_replicate.mp member).2]
  decide

/-! ### Literals that are texts -/

theorem line_end_not_mem_hex_number (value : Nat) : '\n' ∉ Text.hexNumber value := by
  induction value using Nat.strongRecOn with
  | ind value induction =>
      rw [Text.hexNumber]
      split
      · next small =>
          rw [List.mem_singleton]
          exact (quiet_hex_digit value small).1.symm
      · next large =>
          rw [List.mem_append, List.mem_singleton, not_or]
          exact ⟨induction _ (by omega), (quiet_hex_digit _ (Nat.mod_lt _ (by decide))).1.symm⟩

theorem line_end_not_mem_quoted (value : String) : '\n' ∉ (Text.quoted value).toList := by
  have each : ∀ character, '\n' ∉ Text.quotedCharacter character := by
    intro character
    unfold Text.quotedCharacter
    split_ifs with zero tab back line quotation slash hidden
    -- A line end is spelled by a letter, so what shows itself is none.
    any_goals decide
    · have digits := line_end_not_mem_hex_number character.toNat
      simp [digits]
    · rw [List.mem_singleton]
      exact Ne.symm line
  rw [Text.quoted, String.toList_ofList, List.mem_append, List.mem_append, List.mem_flatMap]
  rintro ((first | ⟨character, -, inside⟩) | last)
  · exact absurd first (by decide)
  · exact each character inside
  · exact absurd last (by decide)

/-- A quoted text ends in its quotation mark. -/
theorem not_ends_in_quoted (front value : String) (mark : Mark) :
    ¬EndsIn (front ++ Text.quoted value) mark := by
  have shape : front ++ Text.quoted value
      = front ++ String.ofList ('"' :: value.toList.flatMap Text.quotedCharacter) ++ "\""
        ++ "" := by
    rw [← String.toList_inj]
    simp [Text.quoted]
  rw [shape, ends_in_behind (by decide +kernel)]
  exact not_ends_in_empty mark

end AccessWeave
