/-!
Powers of the two bases between which numbers are converted.
-/

namespace AccessWeave.Decimal

def twoTo (exponent : Nat) : Nat := Nat.pow 2 exponent

def tenTo (exponent : Nat) : Nat := Nat.pow 10 exponent

theorem two_to_positive (exponent : Nat) : 0 < twoTo exponent := Nat.pow_pos (by decide)

theorem ten_to_positive (exponent : Nat) : 0 < tenTo exponent := Nat.pow_pos (by decide)

end AccessWeave.Decimal
