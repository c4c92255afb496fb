import AccessWeave.Decimal.Shortest
import AccessWeave.Proofs.Decimal.Powers
import Mathlib.Tactic.FieldSimp
import Mathlib.Tactic.GCongr
import Mathlib.Tactic.Linarith
import Mathlib.Tactic.NormNum
import Mathlib.Tactic.Positivity
import Mathlib.Tactic.Ring

/-!
# Seventeen digits suffice

A grid of seventeen significant digits is finer than the interval of what rounds to a number, so
one of the two grid points next to the number lies in the interval and the search ends with it.
The point is not zero, because the first place at which the number shows a digit is found
before, and it is not far above the number.
-/

namespace AccessWeave.Decimal

/-! ## The first place -/

theorem digit_count_pos (value : Nat) : 0 < digitCount value := by
  rw [digitCount, digitsOf]
  split <;> simp

theorem lt_ten_to_digit_count (value : Nat) : value < tenTo (digitCount value) := by
  induction value using Nat.strongRecOn with
  | ind value induction =>
      rw [digitCount, digitsOf]
      split
      · next small => simpa [tenTo] using small
      · next large =>
          have shorter := induction (value / 10) (by omega)
          rw [List.length_append, List.length_singleton, ten_to_succ]
          rw [digitCount] at shorter
          omega

theorem ten_to_digit_count_le {value : Nat} (positive : 0 < value) :
    tenTo (digitCount value - 1) ≤ value := by
  induction value using Nat.strongRecOn with
  | ind value induction =>
      rw [digitCount, digitsOf]
      split
      · next small => exact positive
      · next large =>
          have shorter := induction (value / 10) (by omega) (by omega)
          have some := digit_count_pos (value / 10)
          rw [digitCount] at shorter some
          rw [List.length_append, List.length_singleton, Nat.add_sub_cancel]
          have split : (digitsOf (value / 10)).length =
              (digitsOf (value / 10)).length - 1 + 1 := by omega
          rw [split, ten_to_succ]
          omega

theorem leading_places_bounds : ∀ (fuel numerator denominator : Nat),
    denominator ≤ numerator * tenTo fuel →
    denominator ≤ numerator * tenTo (leadingPlaces fuel numerator denominator) ∧
      (numerator < denominator →
        0 < leadingPlaces fuel numerator denominator ∧
        numerator * tenTo (leadingPlaces fuel numerator denominator - 1) < denominator)
  | 0, numerator, denominator, enough => by
      refine ⟨enough, fun below => ?_⟩
      have one : numerator * tenTo 0 = numerator := Nat.mul_one numerator
      omega
  | fuel + 1, numerator, denominator, enough => by
      have shifted : numerator * 10 * tenTo fuel = numerator * tenTo (fuel + 1) := by
        rw [ten_to_succ]
        ring
      have later := leading_places_bounds fuel (numerator * 10) denominator (by omega)
      rw [leadingPlaces]
      split
      · next reached =>
          have one : numerator * tenTo 0 = numerator := Nat.mul_one numerator
          exact ⟨by omega, fun below => by omega⟩
      · next before =>
          have next : ∀ places, numerator * tenTo (places + 1) = numerator * 10 * tenTo places := by
            intro places
            rw [ten_to_succ]
            ring
          refine ⟨by rw [next]; exact later.1, fun below => ⟨by omega, ?_⟩⟩
          rw [Nat.add_sub_cancel]
          rcases Nat.lt_or_ge (numerator * 10) denominator with further | last
          · rcases later.2 further with ⟨some, less⟩
            have split : leadingPlaces fuel (numerator * 10) denominator =
                leadingPlaces fuel (numerator * 10) denominator - 1 + 1 := by omega
            rw [split, next]
            exact less
          · have none : leadingPlaces fuel (numerator * 10) denominator = 0 := by
              cases fuel with
              | zero => rfl
              | succ fuel => rw [leadingPlaces, if_pos last]
            rw [none]
            simpa [tenTo] using below

/-- A positive quotient shows its first digit at the place that is found. -/
theorem place_of_bounds {numerator denominator : Nat} (positive : 0 < numerator)
    (proper : 0 < denominator) :
    (10 : ℚ) ^ (placeOf numerator denominator - 1) ≤ numerator / denominator ∧
      (numerator / denominator : ℚ) < 10 ^ placeOf numerator denominator := by
  have properQ : (0 : ℚ) < denominator := by exact_mod_cast proper
  rw [le_div_iff₀ properQ, div_lt_iff₀ properQ, placeOf]
  split
  · next whole =>
      have floor : 0 < numerator / denominator := Nat.div_pos whole proper
      have some := digit_count_pos (numerator / denominator)
      have low := ten_to_digit_count_le floor
      have high := lt_ten_to_digit_count (numerator / denominator)
      have down : ((digitCount (numerator / denominator) : ℕ) : ℤ) - 1 =
          ((digitCount (numerator / denominator) - 1 : ℕ) : ℤ) := by omega
      rw [down, ← ten_to_eq, ← ten_to_eq]
      constructor
      · exact_mod_cast (Nat.le_div_iff_mul_le proper).mp low
      · exact_mod_cast (Nat.div_lt_iff_lt_mul proper).mp high
  · next less =>
      have below : numerator < denominator := by omega
      have enough : denominator ≤ numerator * tenTo (denominator.log2 + 1) := by
        have bits : denominator < 2 ^ (denominator.log2 + 1) := Nat.lt_log2_self
        have grows : 2 ^ (denominator.log2 + 1) ≤ tenTo (denominator.log2 + 1) :=
          Nat.pow_le_pow_left (by norm_num) _
        calc denominator ≤ 1 * tenTo (denominator.log2 + 1) := by omega
          _ ≤ numerator * tenTo (denominator.log2 + 1) := Nat.mul_le_mul_right _ positive
      obtain ⟨reached, before⟩ := leading_places_bounds _ _ _ enough
      obtain ⟨some, short⟩ := before below
      generalize leadingPlaces (denominator.log2 + 1) numerator denominator = places at *
      constructor
      · have down : (1 : ℤ) - places - 1 = -(places : ℤ) := by ring
        have reachedQ : (denominator : ℚ) ≤ numerator * tenTo places := by
          exact_mod_cast reached
        rw [ten_to_eq] at reachedQ
        rw [down, zpow_neg, inv_mul_le_iff₀ (by positivity), mul_comm]
        exact reachedQ
      · have down : (1 : ℤ) - places = -((places - 1 : ℕ) : ℤ) := by omega
        have shortQ : (numerator * tenTo (places - 1) : ℚ) < denominator := by
          exact_mod_cast short
        rw [ten_to_eq] at shortQ
        rw [down, zpow_neg, lt_inv_mul_iff₀ (by positivity), mul_comm]
        exact shortQ

/-! ## The search -/

namespace RoundingInterval

variable {interval : RoundingInterval} {tie : Tie} {point : Nat}

theorem candidate_cases (found : interval.candidate tie = some point) :
    (point = interval.value / interval.denominator ∨
      point = interval.value / interval.denominator + 1) ∧ interval.holds point = true := by
  unfold candidate at found
  dsimp only at found
  split at found
  · next first second =>
      have pointIs := Option.some.inj found
      split_ifs at pointIs
      · exact ⟨Or.inr pointIs.symm, pointIs ▸ second⟩
      · exact ⟨Or.inl pointIs.symm, pointIs ▸ first⟩
  · next first _ =>
      have pointIs := Option.some.inj found
      exact ⟨Or.inl pointIs.symm, pointIs ▸ first⟩
  · next _ second =>
      have pointIs := Option.some.inj found
      exact ⟨Or.inr pointIs.symm, pointIs ▸ second⟩
  · cases found

theorem holds_of_inside (above : interval.lower < point * interval.denominator)
    (below : point * interval.denominator < interval.upper) : interval.holds point = true := by
  unfold holds
  split_ifs
  · simp only [Bool.and_eq_true, decide_eq_true_eq]
    omega
  · simp only [Bool.and_eq_true, decide_eq_true_eq]
    omega

theorem le_upper_of_holds (inside : interval.holds point = true) :
    point * interval.denominator ≤ interval.upper := by
  unfold holds at inside
  split_ifs at inside
  · simp only [Bool.and_eq_true, decide_eq_true_eq] at inside
    exact inside.2
  · simp only [Bool.and_eq_true, decide_eq_true_eq] at inside
    omega

/-- An interval wider than the grid around a number inside it holds one of the two points next
to the number. -/
theorem candidate_of_wide (proper : 0 < interval.denominator)
    (above : interval.lower < interval.value) (below : interval.value < interval.upper)
    (wide : interval.denominator + interval.lower < interval.upper) :
    (interval.candidate tie).isSome := by
  have floor : interval.value / interval.denominator * interval.denominator ≤ interval.value :=
    Nat.div_mul_le_self _ _
  have ceiling : interval.value <
      (interval.value / interval.denominator + 1) * interval.denominator := by
    rw [Nat.add_mul, Nat.one_mul]
    exact Nat.lt_div_mul_add proper
  have step : (interval.value / interval.denominator + 1) * interval.denominator =
      interval.value / interval.denominator * interval.denominator + interval.denominator := by
    ring
  unfold candidate
  dsimp only
  by_cases low : interval.lower <
      interval.value / interval.denominator * interval.denominator
  · rw [holds_of_inside low (by omega)]
    cases interval.holds (interval.value / interval.denominator + 1) <;> rfl
  · have next : interval.holds (interval.value / interval.denominator + 1) = true :=
      holds_of_inside (by omega) (by omega)
    rw [next]
    cases interval.holds (interval.value / interval.denominator) <;> rfl

end RoundingInterval

/-- The search stops at a grid that has a point in the interval, if one of those that it tries
has. -/
theorem search_grids_found {interval : RoundingInterval} {tie : Tie} {place : ℤ} :
    ∀ (fuel digits : Nat), (∃ more < fuel,
        ((interval.onGrid (place - (digits + more : ℕ))).candidate tie).isSome = true) →
    ∃ more < fuel,
      (interval.onGrid (place - (digits + more : ℕ))).candidate tie =
        some (searchGrids interval tie place fuel digits).1 ∧
      (searchGrids interval tie place fuel digits).2 = place - (digits + more : ℕ)
  | 0, digits, hit => by
      rcases hit with ⟨more, less, _⟩
      omega
  | fuel + 1, digits, hit => by
      rw [searchGrids]
      cases here : (interval.onGrid (place - digits)).candidate tie with
      | some point => exact ⟨0, by omega, here, rfl⟩
      | none =>
          rcases hit with ⟨more, less, found⟩
          obtain ⟨before, rfl⟩ : ∃ before, more = before + 1 := by
            cases more with
            | zero =>
                rw [Nat.add_zero, here] at found
                cases found
            | succ before => exact ⟨before, rfl⟩
          have shift : ∀ count : Nat, digits + (count + 1) = digits + 1 + count := by
            intro count
            omega
          rw [shift] at found
          obtain ⟨count, bound, point, last⟩ :=
            search_grids_found fuel (digits + 1) ⟨before, by omega, found⟩
          have same : place - ((digits + (count + 1) : ℕ) : ℤ) =
              place - ((digits + 1 + count : ℕ) : ℤ) := by rw [shift]
          exact ⟨count + 1, by omega, by rw [same]; exact point, last.trans same.symm⟩

namespace RoundingInterval

variable {interval : RoundingInterval}

/-- A grid changes the unit and nothing else. -/
theorem on_grid_units (interval : RoundingInterval) (lastPlace : ℤ) :
    ∃ up : ℕ, 0 < up ∧ (interval.onGrid lastPlace).lower = interval.lower * up ∧
      (interval.onGrid lastPlace).value = interval.value * up ∧
      (interval.onGrid lastPlace).upper = interval.upper * up ∧
      ((interval.onGrid lastPlace).denominator : ℚ) =
        interval.denominator * 10 ^ lastPlace * up := by
  refine ⟨tenTo (-lastPlace).toNat, ten_to_positive _, rfl, rfl, rfl, ?_⟩
  simp only [onGrid]
  push_cast
  rw [ten_to_quotient]
  ring

theorem on_grid_proper (proper : 0 < interval.denominator) (lastPlace : ℤ) :
    0 < (interval.onGrid lastPlace).denominator := by
  obtain ⟨up, some, -, -, -, denominatorIs⟩ := on_grid_units interval lastPlace
  have properQ : (0 : ℚ) < interval.denominator := by exact_mod_cast proper
  have someQ : (0 : ℚ) < up := by exact_mod_cast some
  have positiveQ : (0 : ℚ) < (interval.onGrid lastPlace).denominator := by
    rw [denominatorIs]
    positivity
  exact_mod_cast positiveQ

/-- A grid of seventeen digits is fine enough for an interval whose width is at least this part
of the number. -/
theorem candidate_at_seventeen (tie : Tie) (proper : 0 < interval.denominator)
    (above : interval.lower < interval.value) (below : interval.value < interval.upper)
    (wide : interval.value < (interval.upper - interval.lower : ℤ) * 10 ^ 16) :
    ((interval.onGrid (placeOf interval.value interval.denominator - 17)).candidate tie).isSome
      = true := by
  have positive : 0 < interval.value := Nat.zero_lt_of_lt above
  have properQ : (0 : ℚ) < interval.denominator := by exact_mod_cast proper
  have first := (place_of_bounds positive proper).1
  rw [le_div_iff₀ properQ] at first
  generalize placeOf interval.value interval.denominator = place at *
  obtain ⟨up, some, lowerIs, valueIs, upperIs, denominatorIs⟩ :=
    on_grid_units interval (place - 17)
  have someQ : (0 : ℚ) < up := by exact_mod_cast some
  have unit : (10 : ℚ) ^ (place - 17) * 10 ^ 16 = 10 ^ (place - 1) := by
    rw [← zpow_natCast, ← zpow_add₀ (by norm_num)]
    congr 1
    push_cast
    ring
  have wideQ : (interval.value : ℚ) < (interval.upper - interval.lower) * 10 ^ 16 := by
    exact_mod_cast wide
  have fine : interval.denominator * (10 : ℚ) ^ (place - 17) <
      interval.upper - interval.lower := by
    have scaled : interval.denominator * (10 : ℚ) ^ (place - 17) * 10 ^ 16 ≤ interval.value := by
      rw [mul_assoc, unit, mul_comm]
      exact first
    linarith
  apply candidate_of_wide
  · exact on_grid_proper proper _
  · rw [lowerIs, valueIs]
    exact Nat.mul_lt_mul_of_pos_right above some
  · rw [valueIs, upperIs]
    exact Nat.mul_lt_mul_of_pos_right below some
  · have scaled : ((interval.onGrid (place - 17)).denominator : ℚ) + interval.lower * up <
        interval.upper * up := by
      rw [denominatorIs]
      nlinarith
    rw [lowerIs, upperIs]
    exact_mod_cast scaled

/-- On a grid that is coarse enough for the number to show a digit, the point below the number is
not zero and has no more digits than the grid has places for. -/
theorem floor_on_grid {digits : ℕ} (positive : 0 < interval.value)
    (proper : 0 < interval.denominator) (shown : 1 ≤ digits) :
    1 ≤ (interval.onGrid (placeOf interval.value interval.denominator - digits)).value /
        (interval.onGrid (placeOf interval.value interval.denominator - digits)).denominator ∧
      (interval.onGrid (placeOf interval.value interval.denominator - digits)).value /
        (interval.onGrid (placeOf interval.value interval.denominator - digits)).denominator <
          10 ^ digits := by
  have properQ : (0 : ℚ) < interval.denominator := by exact_mod_cast proper
  obtain ⟨first, beyond⟩ := place_of_bounds positive proper
  rw [le_div_iff₀ properQ] at first
  rw [div_lt_iff₀ properQ] at beyond
  generalize placeOf interval.value interval.denominator = place at *
  obtain ⟨up, someUp, -, valueIs, -, denominatorIs⟩ := on_grid_units interval (place - digits)
  have upQ : (0 : ℚ) < up := by exact_mod_cast someUp
  have gridProper := on_grid_proper proper (place - digits)
  constructor
  · rw [Nat.le_div_iff_mul_le gridProper, Nat.one_mul]
    have coarse : ((10 : ℚ) ^ (place - digits : ℤ)) ≤ 10 ^ (place - 1) :=
      zpow_le_zpow_right₀ (by norm_num) (by omega)
    have reached : ((interval.onGrid (place - digits)).denominator : ℚ) ≤
        (interval.onGrid (place - digits)).value := by
      rw [denominatorIs, valueIs]
      push_cast
      have short : interval.denominator * (10 : ℚ) ^ (place - digits : ℤ) ≤ interval.value := by
        nlinarith
      exact mul_le_mul_of_nonneg_right short upQ.le
    exact_mod_cast reached
  · rw [Nat.div_lt_iff_lt_mul gridProper]
    have whole : (10 : ℚ) ^ digits * 10 ^ (place - digits : ℤ) = 10 ^ place := by
      rw [← zpow_natCast, ← zpow_add₀ (by norm_num)]
      congr 1
      ring
    have short : ((interval.onGrid (place - digits)).value : ℚ) <
        10 ^ digits * (interval.onGrid (place - digits)).denominator := by
      rw [denominatorIs, valueIs]
      push_cast
      calc (interval.value * up : ℚ) < 10 ^ place * interval.denominator * up := by gcongr
        _ = 10 ^ digits * (interval.denominator * 10 ^ (place - digits : ℤ) * up) := by
            rw [← whole]
            ring
    exact_mod_cast short

theorem point_le_upper {point : ℕ} {lastPlace : ℤ} (proper : 0 < interval.denominator)
    (inside : (interval.onGrid lastPlace).holds point = true) :
    (point * 10 ^ lastPlace : ℚ) ≤ interval.upper / interval.denominator := by
  obtain ⟨up, someUp, -, -, upperIs, denominatorIs⟩ := on_grid_units interval lastPlace
  have properQ : (0 : ℚ) < interval.denominator := by exact_mod_cast proper
  have upQ : (0 : ℚ) < up := by exact_mod_cast someUp
  have most := le_upper_of_holds inside
  rw [upperIs] at most
  have mostQ : (point * (interval.denominator * 10 ^ lastPlace * up) : ℚ) ≤
      interval.upper * up := by
    rw [← denominatorIs]
    exact_mod_cast most
  have grouped : (point * (interval.denominator * 10 ^ lastPlace * up) : ℚ) =
      point * 10 ^ lastPlace * interval.denominator * up := by ring
  rw [grouped] at mostQ
  rw [le_div_iff₀ properQ]
  exact le_of_mul_le_mul_right mostQ upQ

/-- A point of a grid that is coarse enough for the number to show a digit. -/
theorem point_bounds {tie : Tie} {point digits : ℕ} (positive : 0 < interval.value)
    (proper : 0 < interval.denominator) (shown : 1 ≤ digits)
    (found : (interval.onGrid (placeOf interval.value interval.denominator - digits)).candidate
      tie = some point) :
    1 ≤ point ∧ point ≤ 10 ^ digits ∧
      (point * 10 ^ (placeOf interval.value interval.denominator - digits : ℤ) : ℚ) ≤
        interval.upper / interval.denominator := by
  obtain ⟨nextTo, inside⟩ := candidate_cases found
  obtain ⟨floorLow, floorHigh⟩ := floor_on_grid positive proper shown
  exact ⟨by omega, by omega, point_le_upper proper inside⟩

end RoundingInterval

/-! ## What rounds to a binary number -/

/-- A quarter or a half of a unit below, half a unit above. -/
theorem rounding_interval_sides (format : BinaryFormat) {significand : ℕ} (exponent : ℤ)
    (narrow : format.fractionBits ≤ 52) (positive : 0 < significand)
    (fits : significand < twoTo (format.fractionBits + 1)) :
    ∃ below : ℕ, 0 < below ∧ below ≤ 4 * significand ∧
      significand < (below + 2) * (10 ^ 16 / 4) ∧
      (roundingInterval format significand exponent).lower =
        (4 * significand - below) * twoTo (exponent - 2).toNat := by
  by_cases closeBelow :
      significand = twoTo format.fractionBits ∧ format.leastExponent < exponent
  · have small : twoTo format.fractionBits ≤ 2 ^ 52 := Nat.pow_le_pow_right (by norm_num) narrow
    exact ⟨1, by norm_num, by omega, by omega,
      by simp only [roundingInterval, if_pos closeBelow]⟩
  · have bound : significand < 2 ^ 53 :=
      fits.trans_le (Nat.pow_le_pow_right (by norm_num) (by omega))
    exact ⟨2, by norm_num, by omega, by omega,
      by simp only [roundingInterval, if_neg closeBelow]⟩

/-- The number is inside its interval, which is wide enough for seventeen digits. -/
theorem rounding_interval_wide (format : BinaryFormat) {significand : ℕ} (exponent : ℤ)
    (narrow : format.fractionBits ≤ 52) (positive : 0 < significand)
    (fits : significand < twoTo (format.fractionBits + 1)) :
    (roundingInterval format significand exponent).lower <
        (roundingInterval format significand exponent).value ∧
      (roundingInterval format significand exponent).value <
        (roundingInterval format significand exponent).upper ∧
      ((roundingInterval format significand exponent).value : ℤ) <
        ((roundingInterval format significand exponent).upper -
          (roundingInterval format significand exponent).lower : ℤ) * 10 ^ 16 := by
  have scale : 0 < twoTo (exponent - 2).toNat := two_to_positive _
  have value : (roundingInterval format significand exponent).value =
      4 * significand * twoTo (exponent - 2).toNat := rfl
  have upper : (roundingInterval format significand exponent).upper =
      (4 * significand + 2) * twoTo (exponent - 2).toNat := rfl
  obtain ⟨below, some, few, near, lower⟩ :=
    rounding_interval_sides format exponent narrow positive fits
  refine ⟨?_, ?_, ?_⟩
  · rw [lower, value]
    exact Nat.mul_lt_mul_of_pos_right (by omega) scale
  · rw [value, upper]
    exact Nat.mul_lt_mul_of_pos_right (by omega) scale
  · have width : ((roundingInterval format significand exponent).upper -
        (roundingInterval format significand exponent).lower : ℤ) =
          (below + 2) * twoTo (exponent - 2).toNat := by
      rw [lower, upper]
      push_cast [few]
      ring
    have scaleZ : (0 : ℤ) < twoTo (exponent - 2).toNat := by exact_mod_cast scale
    have part : (4 * significand : ℤ) < (below + 2) * 10 ^ 16 := by
      have nearZ : (significand : ℤ) < (below + 2) * (10 ^ 16 / 4) := by exact_mod_cast near
      omega
    rw [width, value]
    push_cast
    calc (4 * significand * twoTo (exponent - 2).toNat : ℤ)
        < (below + 2) * 10 ^ 16 * twoTo (exponent - 2).toNat :=
          mul_lt_mul_of_pos_right part scaleZ
      _ = (below + 2) * twoTo (exponent - 2).toNat * 10 ^ 16 := by ring

theorem rounding_interval_upper (format : BinaryFormat) (significand : ℕ) (exponent : ℤ) :
    ((roundingInterval format significand exponent).upper : ℚ) /
      (roundingInterval format significand exponent).denominator =
        (significand + 1 / 2) * 2 ^ exponent := by
  have upper : (roundingInterval format significand exponent).upper =
      (4 * significand + 2) * twoTo (exponent - 2).toNat := rfl
  have denominator : (roundingInterval format significand exponent).denominator =
      twoTo (-(exponent - 2)).toNat := by
    rw [neg_sub]
    rfl
  have scale := two_to_quotient (exponent - 2)
  have unit : (2 : ℚ) ^ exponent = 2 ^ (exponent - 2) * 4 := by
    rw [zpow_sub₀ (by norm_num)]
    norm_num
  have properQ : (0 : ℚ) < twoTo (-(exponent - 2)).toNat := by
    exact_mod_cast two_to_positive _
  rw [upper, denominator, div_eq_iff properQ.ne']
  push_cast
  rw [scale, unit]
  ring

/-- The digits of a positive number are those of a grid point next to it, other than zero and
no more than half a unit of the binary number above it. -/
theorem shortest_point {format : BinaryFormat} {significand : ℕ} (tie : Tie) (exponent : ℤ)
    (narrow : format.fractionBits ≤ 52) (positive : 0 < significand)
    (fits : significand < twoTo (format.fractionBits + 1)) :
    ∃ (point : ℕ) (lastPlace : ℤ), 1 ≤ point ∧ point ≤ 10 ^ 17 ∧
      (point * 10 ^ lastPlace : ℚ) ≤ (significand + 1 / 2) * 2 ^ exponent ∧
      shortest format tie significand exponent =
        { digits := dropTrailingZeros (digitsOf point)
          place := (digitsOf point).length + lastPlace } := by
  have proper : 0 < (roundingInterval format significand exponent).denominator :=
    two_to_positive _
  obtain ⟨above, below, wide⟩ :=
    rounding_interval_wide format exponent narrow positive fits
  have hit := RoundingInterval.candidate_at_seventeen tie proper above below wide
  obtain ⟨more, less, found, last⟩ := search_grids_found 17 1 ⟨16, by norm_num, hit⟩
  obtain ⟨least, most, under⟩ :=
    RoundingInterval.point_bounds (Nat.zero_lt_of_lt above) proper (by omega) found
  rw [rounding_interval_upper] at under
  exact ⟨_, _, least, most.trans (Nat.pow_le_pow_right (by norm_num) (by omega)), under,
    by rw [← last]; rfl⟩

end AccessWeave.Decimal
