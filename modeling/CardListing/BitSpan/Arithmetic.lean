import CardListing.BitSpan
import Mathlib.Algebra.Group.Nat.Defs

/-!
Spans of bits as arithmetic. A span inside a word is read by dividing by the weight of its
least significant bit and taking the remainder by the number of its values; all values
are natural numbers, so no step can overflow.
-/

namespace CardListing

/-- Moving by less than the width of a word moves by the amount itself. -/
theorem toNat_ofNat_mod {amount : Nat} (h : amount < 64)
    : (UInt64.ofNat amount).toNat % 64 = amount := by
  rw [UInt64.toNat_ofNat_of_lt' (Nat.lt_trans h (by decide)), Nat.mod_eq_of_lt h]

/-- A one moved to the left by less than the width of a word is a power of two. -/
theorem toNat_one_shiftLeft {bits : Nat} (h : bits < 64)
    : ((1 : UInt64) <<< UInt64.ofNat bits).toNat = 2 ^ bits := by
  rw [UInt64.toNat_shiftLeft, toNat_ofNat_mod h, UInt64.toNat_one, Nat.shiftLeft_eq, Nat.one_mul]
  exact Nat.mod_eq_of_lt (Nat.pow_lt_pow_right (by decide) h)

/-- The number spelled by the lowest bits when they are all set. -/
theorem toNat_lowOnes (bits : Nat) : (lowOnes bits).toNat = 2 ^ min bits 64 - 1 := by
  unfold lowOnes
  split
  · rename_i h
    rw [Nat.min_eq_right h]
    rfl
  · rename_i h
    have one := toNat_one_shiftLeft (Nat.lt_of_not_le h)
    rw [UInt64.toNat_sub_of_le]
    · rw [one, Nat.min_eq_left (Nat.le_of_not_le h)]
      rfl
    · rw [UInt64.le_iff_toNat_le, one]
      exact Nat.two_pow_pos bits

namespace BitSpan

theorem toNat_maxValue (span : BitSpan) : span.maxValue.toNat = 2 ^ span.length - 1 := by
  rw [maxValue, toNat_lowOnes, Nat.min_eq_left span.length_le]

/-- A value fits exactly when its bits are no more than those of the span. -/
theorem fits_iff (span : BitSpan) (value : UInt64)
    : span.fits value = true ↔ value.toNat < 2 ^ span.length := by
  have := Nat.two_pow_pos span.length
  simp only [fits, decide_eq_true_eq, UInt64.le_iff_toNat_le, toNat_maxValue]
  omega

/-- Reading a span drops the bits below it and keeps as many as it has. -/
theorem toNat_get (span : BitSpan) (word : UInt64) (width : Nat)
    (h : span.isWithin width = true)
    : (span.get word width).toNat
      = word.toNat / 2 ^ span.shift width % 2 ^ span.length := by
  have hroom := span.shift_add_length_le width h
  have hlength := span.one_le_length
  have hlt : span.shift width < 64 := by omega
  rw [get, UInt64.toNat_and, toNat_maxValue, Nat.and_two_pow_sub_one_eq_mod,
    UInt64.toNat_shiftRight, toNat_ofNat_mod hlt, Nat.shiftRight_eq_div_pow]

end BitSpan

end CardListing
