/-!
Floating point numbers of 64 bits. The magnitude of one is a whole number of units, the unit
being the least positive magnitude, with at most 53 binary digits before its trailing zeros.
Results are rounded to the nearest magnitude, and of two equally near to the one whose last
digit is even. All of this is reckoned with natural numbers.
-/

namespace CardListing

namespace Double

/-- The number one, in units. -/
def one : Nat := 1 <<< 1074

/-- The least power of two that is too great for a floating point number, in units. -/
def limit : Nat := 1 <<< 2098

/-- The greatest floating point number. -/
def greatest : Nat := (1 <<< 1024) - (1 <<< 971)

/-- A number three steps below the greatest. What is at most this is still finite after three
results on the way to it have been rounded. -/
def safelyFinite : Nat := (1 <<< 1024) - (1 <<< 973)

/-- How many binary digits of a number of units are beyond the first 53. -/
def places (units : Nat) : Nat := units.log2 - 52

/-- The whole number nearest to a fraction, and of two equally near the even one. -/
def nearest (numerator denominator : Nat) : Nat :=
  let below := numerator / denominator
  let twice := 2 * (numerator % denominator)
  if twice < denominator ∨ twice = denominator ∧ below % 2 = 0 then below else below + 1

theorem nearest_le {numerator denominator bound : Nat} (h : numerator ≤ bound * denominator)
    : nearest numerator denominator ≤ bound := by
  rcases Nat.eq_zero_or_pos denominator with rfl | positive
  · obtain rfl : numerator = 0 := by omega
    simp [nearest]
  have below : numerator / denominator ≤ bound := Nat.div_le_of_le_mul (by rwa [Nat.mul_comm])
  rw [nearest]
  split
  · exact below
  · rename_i above
    refine Nat.lt_of_le_of_ne below fun exact => ?_
    have split := Nat.div_add_mod numerator denominator
    rw [exact, Nat.mul_comm] at split
    omega

/-- A magnitude. It is not bounded above, so that it can be seen whether it is too great. -/
structure Magnitude where
  units : Nat
  short : units % (1 <<< places units) = 0
deriving DecidableEq, Repr

namespace Magnitude

/-- A whole number up to the least one of 54 binary digits, followed by zeros, is short. -/
theorem mod_shiftLeft_places {digits : Nat} (h : digits ≤ 1 <<< 53) (zeros : Nat)
    : (digits <<< zeros) % (1 <<< places (digits <<< zeros)) = 0 := by
  rcases Nat.eq_zero_or_pos digits with rfl | positive
  · simp
  have nonzero : digits <<< zeros ≠ 0 := by
    rw [Nat.shiftLeft_eq]
    exact Nat.ne_of_gt (Nat.mul_pos positive (Nat.two_pow_pos _))
  rcases Nat.lt_or_eq_of_le h with small | rfl
  · have few : places (digits <<< zeros) ≤ zeros := by
      have bound : (digits <<< zeros).log2 < 53 + zeros := by
        rw [Nat.log2_lt nonzero, Nat.shiftLeft_eq, Nat.pow_add]
        rw [Nat.one_shiftLeft] at small
        exact Nat.mul_lt_mul_of_pos_right small (Nat.two_pow_pos _)
      rw [places]
      omega
    rw [Nat.one_shiftLeft]
    refine Nat.mod_eq_zero_of_dvd (Nat.dvd_trans (Nat.pow_dvd_pow 2 few) ⟨digits, ?_⟩)
    rw [Nat.shiftLeft_eq, Nat.mul_comm]
  · have power : (1 <<< 53) <<< zeros = 1 <<< (53 + zeros) := (Nat.shiftLeft_add 1 53 zeros).symm
    rw [power, places, Nat.one_shiftLeft, Nat.one_shiftLeft, Nat.log2_two_pow]
    exact Nat.mod_eq_zero_of_dvd (Nat.pow_dvd_pow 2 (by omega))

/-- The number of digits kept is at most that of a full magnitude. -/
theorem nearest_places_le (numerator denominator : Nat)
    : nearest numerator (denominator <<< places (numerator / denominator)) ≤ 1 <<< 53 := by
  rcases Nat.eq_zero_or_pos denominator with rfl | positive
  · rw [Nat.zero_shiftLeft, nearest]
    split <;> simp
  refine nearest_le ?_
  have quotient : numerator < (numerator / denominator + 1) * denominator := by
    rw [Nat.mul_comm]
    exact Nat.lt_mul_div_succ _ positive
  have power : numerator / denominator + 1 ≤ 1 <<< (53 + places (numerator / denominator)) := by
    have below : numerator / denominator < 1 <<< ((numerator / denominator).log2 + 1) := by
      rw [Nat.one_shiftLeft]
      exact Nat.lt_log2_self
    refine Nat.le_trans below ?_
    rw [Nat.one_shiftLeft, Nat.one_shiftLeft, places]
    exact Nat.pow_le_pow_right (by decide) (by omega)
  refine Nat.le_of_lt (Nat.lt_of_lt_of_le quotient ?_)
  refine Nat.le_trans (Nat.mul_le_mul_right _ power) (Nat.le_of_eq ?_)
  rw [Nat.one_shiftLeft, Nat.one_shiftLeft, Nat.shiftLeft_eq, Nat.pow_add, Nat.mul_assoc,
    Nat.mul_comm denominator]

/-- The magnitude nearest to a fraction of units. -/
def round (numerator denominator : Nat) : Magnitude where
  units :=
    nearest numerator (denominator <<< places (numerator / denominator))
      <<< places (numerator / denominator)
  short := mod_shiftLeft_places (nearest_places_le numerator denominator) _

def ofNat (n : Nat) : Magnitude := round (n * one) 1

def mul (x y : Magnitude) : Magnitude := round (x.units * y.units) one

def div (x y : Magnitude) : Magnitude := round (x.units * one) y.units

end Magnitude

end Double

/-- A finite floating point number; zero has a sign as well. -/
structure Double where
  negative : Bool
  magnitude : Double.Magnitude
  finite : magnitude.units < Double.limit
deriving DecidableEq, Repr

end CardListing
