import AccessWeave.Decimal.Power
import Mathlib.Algebra.Order.Field.Power
import Mathlib.Data.Rat.Defs
import Mathlib.Tactic.NormNum

/-!
# Powers with exponents of either sign

Numbers are scaled by a natural power above the line or below it, whichever has the exponent.
Either way the quotient is that of one power with an integer exponent.
-/

namespace AccessWeave.Decimal

theorem two_to_succ (exponent : Nat) : twoTo (exponent + 1) = twoTo exponent * 2 := rfl

theorem ten_to_succ (exponent : Nat) : tenTo (exponent + 1) = tenTo exponent * 10 := rfl

theorem two_to_eq (exponent : Nat) : (twoTo exponent : ℚ) = 2 ^ (exponent : ℤ) := by
  rw [zpow_natCast]
  exact Nat.cast_pow 2 exponent

theorem ten_to_eq (exponent : Nat) : (tenTo exponent : ℚ) = 10 ^ (exponent : ℤ) := by
  rw [zpow_natCast]
  exact Nat.cast_pow 10 exponent

theorem two_to_quotient (exponent : ℤ) :
    (twoTo exponent.toNat : ℚ) = 2 ^ exponent * twoTo (-exponent).toNat := by
  rw [two_to_eq, two_to_eq, ← zpow_add₀ (by norm_num)]
  congr 1
  omega

theorem ten_to_quotient (exponent : ℤ) :
    (tenTo exponent.toNat : ℚ) = 10 ^ exponent * tenTo (-exponent).toNat := by
  rw [ten_to_eq, ten_to_eq, ← zpow_add₀ (by norm_num)]
  congr 1
  omega

end AccessWeave.Decimal
