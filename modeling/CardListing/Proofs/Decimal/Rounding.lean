import CardListing.Decimal.Double
import Mathlib.Tactic.Ring

/-! How far rounding goes. A fraction is rounded up by at most half of its last binary digit, so
that a magnitude exceeds what it is rounded from by at most one part in 2 ^ 53; and rounding does
not cross a power of two.
-/

namespace CardListing

namespace Double

/-- The nearest whole number exceeds a fraction by at most a half. -/
theorem two_mul_nearest_mul_le (numerator denominator : Nat)
    : 2 * (nearest numerator denominator * denominator) ≤ 2 * numerator + denominator := by
  have split := Nat.div_add_mod numerator denominator
  rw [Nat.mul_comm] at split
  rw [nearest]
  split
  · omega
  · rename_i above
    have half : denominator ≤ 2 * (numerator % denominator) := by omega
    rw [Nat.add_mul]
    omega

theorem le_nearest {numerator denominator bound : Nat} (positive : 0 < denominator)
    (h : bound * denominator ≤ numerator)
    : bound ≤ nearest numerator denominator := by
  have below := (Nat.le_div_iff_mul_le positive).mpr h
  rw [nearest]
  split
  · exact below
  · exact Nat.le_succ_of_le below

namespace Magnitude

theorem units_round (numerator denominator : Nat)
    : (round numerator denominator).units
      = nearest numerator (denominator * 2 ^ places (numerator / denominator))
        * 2 ^ places (numerator / denominator) :=
  (Nat.shiftLeft_eq _ _).trans (by rw [Nat.shiftLeft_eq])

/-- Where no part of a unit counts, rounding adds at most one part in 2 ^ 53. -/
theorem round_mul_le {numerator denominator : Nat} (large : 2 ^ 52 * denominator ≤ numerator)
    : (round numerator denominator).units * denominator * 2 ^ 53
      ≤ numerator * (2 ^ 53 + 1) := by
  rcases Nat.eq_zero_or_pos denominator with rfl | positive
  · simp
  rw [units_round]
  have many : 2 ^ 52 ≤ numerator / denominator := (Nat.le_div_iff_mul_le positive).mpr large
  generalize quotient : numerator / denominator = q at many
  have nonzero : q ≠ 0 := by
    rintro rfl
    exact absurd many (by decide)
  have digits : 52 ≤ q.log2 := (Nat.le_log2 nonzero).mpr many
  -- The last digit that is kept counts at most one part in 2 ^ 52 of the fraction.
  have place : denominator * 2 ^ places q * 2 ^ 52 ≤ numerator := by
    have power : 2 ^ places q * 2 ^ 52 ≤ q := by
      rw [← Nat.pow_add, places, Nat.sub_add_cancel digits]
      exact Nat.log2_self_le nonzero
    rw [Nat.mul_assoc]
    refine Nat.le_trans (Nat.mul_le_mul_left denominator power) ?_
    rw [← quotient]
    exact Nat.mul_div_le numerator denominator
  have half := two_mul_nearest_mul_le numerator (denominator * 2 ^ places q)
  generalize nearest numerator (denominator * 2 ^ places q) = kept at half
  calc kept * 2 ^ places q * denominator * 2 ^ 53
      = 2 ^ 52 * (2 * (kept * (denominator * 2 ^ places q))) := by ring
    _ ≤ 2 ^ 52 * (2 * numerator + denominator * 2 ^ places q) := Nat.mul_le_mul_left _ half
    _ = 2 ^ 53 * numerator + denominator * 2 ^ places q * 2 ^ 52 := by ring
    _ ≤ 2 ^ 53 * numerator + numerator := Nat.add_le_add_left place _
    _ = numerator * (2 ^ 53 + 1) := by ring

/-- Rounding does not exceed a power of two that the fraction does not exceed. -/
theorem round_le_shift {numerator denominator exponent : Nat}
    (h : numerator ≤ (1 <<< exponent) * denominator)
    : (round numerator denominator).units ≤ 1 <<< exponent := by
  rw [Nat.one_shiftLeft] at h ⊢
  rw [units_round]
  have below : numerator / denominator ≤ 2 ^ exponent :=
    Nat.div_le_of_le_mul (by rwa [Nat.mul_comm])
  have few : places (numerator / denominator) ≤ exponent := by
    by_cases zero : numerator / denominator = 0
    · rw [zero]
      exact Nat.zero_le _
    · have bound := Nat.pow_le_pow_iff_right (Nat.one_lt_two) |>.mp
        (Nat.le_trans (Nat.log2_self_le zero) below)
      exact Nat.le_trans (Nat.sub_le _ _) bound
  generalize places (numerator / denominator) = zeros at few
  have whole : 2 ^ exponent = 2 ^ (exponent - zeros) * 2 ^ zeros := by
    rw [← Nat.pow_add, Nat.sub_add_cancel few]
  rw [whole]
  refine Nat.mul_le_mul_right _ (nearest_le ?_)
  rw [Nat.mul_comm denominator, ← Nat.mul_assoc, ← whole]
  exact h

theorem shift_le_round {numerator denominator exponent : Nat} (positive : 0 < denominator)
    (h : (1 <<< exponent) * denominator ≤ numerator)
    : 1 <<< exponent ≤ (round numerator denominator).units := by
  rw [Nat.one_shiftLeft] at h ⊢
  rw [units_round]
  have above : 2 ^ exponent ≤ numerator / denominator := (Nat.le_div_iff_mul_le positive).mpr h
  have nonzero := Nat.ne_of_gt (Nat.lt_of_lt_of_le (Nat.two_pow_pos exponent) above)
  have long : exponent ≤ (numerator / denominator).log2 := (Nat.le_log2 nonzero).mpr above
  have reached : 2 ^ (numerator / denominator).log2 * denominator ≤ numerator :=
    (Nat.le_div_iff_mul_le positive).mp (Nat.log2_self_le nonzero)
  refine Nat.le_trans (Nat.pow_le_pow_right Nat.two_pos long) ?_
  have few : places (numerator / denominator) ≤ (numerator / denominator).log2 := Nat.sub_le _ _
  generalize places (numerator / denominator) = zeros at few
  generalize (numerator / denominator).log2 = length at few reached
  have whole : 2 ^ length = 2 ^ (length - zeros) * 2 ^ zeros := by
    rw [← Nat.pow_add, Nat.sub_add_cancel few]
  rw [whole]
  refine Nat.mul_le_mul_right _
    (le_nearest (Nat.mul_pos positive (Nat.two_pow_pos zeros)) ?_)
  rw [Nat.mul_comm denominator, ← Nat.mul_assoc, ← whole]
  exact reached

end Magnitude

end Double

end CardListing
