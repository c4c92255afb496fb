import AccessWeave.Text.Bytes
import Mathlib.Tactic.ByContra
import Mathlib.Tactic.SplitIfs

/-!
# The order of texts

Texts are compared code point by code point. Their bytes, compared one by one, are in the same
order: the bytes of a larger code point are larger where they first differ.
-/

namespace AccessWeave.Text

theorem to_bytes_eq (text : String) :
    toBytes text = text.toList.flatMap String.utf8EncodeChar := by
  rw [toBytes, ← String.utf8Encode_toList, List.utf8Encode]
  simp

theorem byte_lt_iff {left right : Nat} :
    UInt8.ofNat left < UInt8.ofNat right ↔ left % 256 < right % 256 := by
  rw [UInt8.lt_iff_toNat_lt, UInt8.toNat_ofNat', UInt8.toNat_ofNat']

theorem byte_eq_iff {left right : Nat} :
    UInt8.ofNat left = UInt8.ofNat right ↔ left % 256 = right % 256 := by
  rw [← UInt8.toNat_inj, UInt8.toNat_ofNat', UInt8.toNat_ofNat']

/-- A larger code point decides, whatever follows. -/
theorem encode_char_lt {left right : Char} (below : left < right) (lefts rights : List UInt8) :
    String.utf8EncodeChar left ++ lefts < String.utf8EncodeChar right ++ rights := by
  have less : left.val.toNat < right.val.toNat := UInt32.lt_iff_toNat_lt.mp below
  have bounded : right.val.toNat < 1114112 := by
    rcases right.valid with low | ⟨-, high⟩
    · exact Nat.lt_trans low (by decide)
    · exact high
  unfold String.utf8EncodeChar
  generalize left.val.toNat = low at less ⊢
  generalize right.val.toNat = high at less bounded ⊢
  dsimp only
  split_ifs <;>
    simp (disch := omega) only [List.cons_append, List.cons_lt_cons_iff, byte_lt_iff,
      byte_eq_iff, Nat.mod_eq_of_lt] <;>
    omega

theorem encoded_lt {lefts rights : List Char} (below : lefts < rights) :
    lefts.flatMap String.utf8EncodeChar < rights.flatMap String.utf8EncodeChar := by
  induction lefts generalizing rights with
  | nil =>
      cases rights with
      | nil => exact absurd below (List.not_lt_nil _)
      | cons right rights =>
          rw [List.flatMap_nil, List.flatMap_cons]
          cases encoded : String.utf8EncodeChar right with
          | nil => exact absurd encoded String.utf8EncodeChar_ne_nil
          | cons byte bytes => exact List.nil_lt_cons _ _
  | cons left lefts induction =>
      cases rights with
      | nil => exact absurd below (List.not_lt_nil _)
      | cons right rights =>
          rw [List.flatMap_cons, List.flatMap_cons]
          rcases List.cons_lt_cons_iff.mp below with first | ⟨rfl, later⟩
          · exact encode_char_lt first _ _
          · exact List.append_left_lt (induction later)

/-- The order of texts is that of their bytes. -/
theorem to_bytes_lt_iff {left right : String} :
    toBytes left < toBytes right ↔ left < right := by
  have forward : ∀ {left right : String}, left < right → toBytes left < toBytes right := by
    intro left right below
    rw [to_bytes_eq, to_bytes_eq]
    exact encoded_lt (String.lt_iff.mp below)
  constructor
  · intro below
    by_contra notBelow
    by_cases above : right < left
    · exact List.lt_asymm below (forward above)
    · rw [String.le_antisymm above notBelow] at below
      exact List.lt_irrefl _ below
  · exact forward

end AccessWeave.Text
