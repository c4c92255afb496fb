import AccessWeave.Proofs.Decimal.SeventeenDigits
import AccessWeave.Proofs.Json.Meaning
import Mathlib.Data.List.DropRight

/-!
# Floating point numbers as documents

A finite number has digits, and the first of them is not zero, so its literal follows the format
in either layout. Any pattern can be written: one that is not finite is written as null.
-/

namespace AccessWeave.Decimal

/-- The digits that are left when zeros at the end are dropped from a number that is not zero. -/
theorem drop_trailing_zeros_spelled (value : Nat) (positive : 0 < value) :
    dropTrailingZeros (digitsOf value) ≠ [] ∧
      ∀ digit ∈ (dropTrailingZeros (digitsOf value)).head?, digit.val ≠ 0 := by
  have front : dropTrailingZeros (digitsOf value) <+: digitsOf value :=
    List.rdropWhile_prefix _ _
  have present : dropTrailingZeros (digitsOf value) ≠ [] := by
    intro empty
    have zeros := (List.rdropWhile_eq_nil_iff).mp empty
    cases digits : digitsOf value with
    | nil => exact Json.digits_of_ne_nil value digits
    | cons digit rest =>
        have nonzero := Json.digits_of_leading positive digit (by rw [digits]; rfl)
        have zero := zeros digit (by rw [digits]; exact List.mem_cons_self)
        rw [beq_iff_eq] at zero
        exact nonzero (congrArg Fin.val zero)
  refine ⟨present, ?_⟩
  rcases front with ⟨zeros, joined⟩
  have first := Json.digits_of_leading positive
  rw [← joined, List.head?_append_of_ne_nil _ present] at first
  exact first

theorem magnitude_fits {format : BinaryFormat} {pattern significand : ℕ} {exponent : ℤ}
    (finite : format.magnitude pattern = .finite significand exponent) :
    significand < twoTo (format.fractionBits + 1) := by
  have fraction : pattern % twoTo format.fractionBits < twoTo format.fractionBits :=
    Nat.mod_lt _ (two_to_positive _)
  rw [two_to_succ]
  unfold BinaryFormat.magnitude at finite
  dsimp only at finite
  split_ifs at finite <;> obtain ⟨rfl, _⟩ := Magnitude.finite.inj finite <;> omega

end AccessWeave.Decimal

namespace AccessWeave.Json

open Decimal

/-- A layout is told apart from the other one by the place of the point, and zero has the point
in front. -/
def FixedRange.Proper (bounds : FixedRange) : Prop := bounds.above < 0 ∧ 0 ≤ bounds.upTo

theorem fixed_range_32_proper : fixedRange32.Proper := ⟨by decide, by decide⟩

theorem fixed_range_64_proper : fixedRange64.Proper := ⟨by decide, by decide⟩

theorem scaled_literal_spelled {bounds : FixedRange} (negative : Bool) {scaled : Scaled}
    (present : scaled.digits ≠ [])
    (leading : ∀ digit ∈ scaled.digits.head?, digit.val ≠ 0) :
    (scaledLiteral bounds negative scaled).Spelled := by
  obtain ⟨first, rest, digits⟩ := List.exists_cons_of_ne_nil present
  rw [digits] at leading
  unfold scaledLiteral Scaled.positional
  split_ifs with fixed front
  · exact ⟨by simp, Or.inl rfl, fun _ none => by cases none⟩
  · obtain ⟨places, placesIs⟩ : ∃ places : ℕ, scaled.place.toNat = places + 1 :=
      ⟨scaled.place.toNat - 1, by omega⟩
    refine ⟨?_, Or.inr ?_, fun _ none => by cases none⟩
    · simp [digits, placesIs]
    · simpa [digits, placesIs] using leading first rfl
  · refine ⟨?_, Or.inl ?_, ?_⟩
    · simp [digits]
    · simp [digits]
    · intro exponent present
      cases present
      exact digits_of_ne_nil _

theorem zero_literal_spelled {bounds : FixedRange} (proper : bounds.Proper) (negative : Bool) :
    (scaledLiteral bounds negative ⟨[], 0⟩).Spelled := by
  have fixed : bounds.above < 0 ∧ 0 ≤ bounds.upTo := proper
  rw [scaledLiteral, if_pos fixed]
  exact ⟨by simp [Scaled.positional], Or.inl rfl, fun _ none => by cases none⟩

/-- Every pattern is written as a number or as null. -/
theorem of_pattern_spelled (format : BinaryFormat) {bounds : FixedRange}
    (narrow : format.fractionBits ≤ 52) (proper : bounds.Proper) (pattern : ℕ) :
    (ofPattern format bounds pattern).Spelled := by
  unfold ofPattern
  split
  · next significand exponent finite =>
      show (scaledLiteral bounds _ (scaledOf format .even significand exponent)).Spelled
      rw [scaledOf]
      split_ifs with zero
      · exact zero_literal_spelled proper _
      · obtain ⟨point, lastPlace, least, _, _, digits⟩ := shortest_point .even exponent
          narrow (Nat.pos_of_ne_zero zero) (magnitude_fits finite)
        obtain ⟨present, leading⟩ := drop_trailing_zeros_spelled point (by omega)
        rw [digits]
        exact scaled_literal_spelled _ present leading
  · trivial

end AccessWeave.Json
