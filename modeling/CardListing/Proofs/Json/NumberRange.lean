import CardListing.Json.NumberValue
import CardListing.Proofs.Decimal.Rounding
import CardListing.Proofs.Json.RoundTrip.Number

/-! Literals that are in range. The digits that are kept of a literal are no more than the number
that it writes, and of a number that is clearly below the greatest floating point number no
rounding on the way exceeds it. So such a literal stands for a floating point number.
-/

namespace CardListing

namespace Json

namespace Number

-----------------------------------------------------------------------------------------
-- The digits that are kept
-----------------------------------------------------------------------------------------

/-- The number of some digits after others. -/
def appended (n : Nat) (digits : List (Fin 10)) : Nat :=
  digits.foldl (fun n d => 10 * n + d.val) n

theorem appended_append (n : Nat) (digits later : List (Fin 10))
    : appended n (digits ++ later) = appended (appended n digits) later :=
  List.foldl_append

theorem mul_pow_le_appended (n : Nat) (digits : List (Fin 10))
    : n * 10 ^ digits.length ≤ appended n digits := by
  induction digits generalizing n with
  | nil => simp [appended]
  | cons d later ih =>
      refine Nat.le_trans ?_ (ih (10 * n + d.val))
      rw [List.length_cons, Nat.pow_succ', ← Nat.mul_assoc, Nat.mul_comm n]
      exact Nat.mul_le_mul_right _ (Nat.le_add_right _ _)

/-- Digits are kept up to the first with which the number would need more than 64 bits. By
induction on the digits.
-/
theorem absorb_cases (n : Nat) (digits : List (Fin 10))
    : absorb n digits = (appended n digits, 0)
      ∨ ∃ kept d later,
        digits = kept ++ d :: later
        ∧ absorb n digits = (appended n kept, later.length + 1)
        ∧ UInt64.size ≤ 10 * appended n kept + d.val := by
  induction digits generalizing n with
  | nil => exact .inl rfl
  | cons d later ih =>
      rw [absorb]
      split
      · obtain all | ⟨kept, dropped, rest, same, absorbed, large⟩ := ih (10 * n + d.val)
        · exact .inl all
        · exact .inr ⟨d :: kept, dropped, rest, by rw [same]; rfl, absorbed, large⟩
      · rename_i large
        exact .inr ⟨[], d, later, rfl, rfl, Nat.le_of_not_lt large⟩

theorem absorb_lt {n : Nat} (h : n < UInt64.size) (digits : List (Fin 10))
    : (absorb n digits).1 < UInt64.size := by
  induction digits generalizing n with
  | nil => exact h
  | cons d later ih =>
      rw [absorb]
      split
      · rename_i fits
        exact ih fits
      · exact h

theorem exists_digit? {c : Char} (h : c.isDigit = true)
    : ∃ d : Fin 10, digit? c = some d ∧ d.val = c.toNat - '0'.toNat := by
  have bound : c.toNat - '0'.toNat < 10 := by
    have last : c.val ≤ '9'.val := (by simpa [Char.isDigit] using h : _ ∧ _).2
    have below : c.toNat ≤ 57 := last
    change c.toNat - 48 < 10
    omega
  exact ⟨⟨_, bound⟩, dif_pos ⟨h, bound⟩, rfl⟩

theorem appended_filterMap_digit? {digits : Text} (h : ∀ c ∈ digits, c.isDigit = true) (n : Nat)
    : appended n (digits.filterMap digit?) = Nat.ofDigitChars 10 digits n := by
  induction digits generalizing n with
  | nil => rfl
  | cons c later ih =>
      obtain ⟨d, read, value⟩ := exists_digit? (h c List.mem_cons_self)
      rw [List.filterMap_cons_some read, Nat.ofDigitChars_cons, ← value]
      exact ih (fun c among => h c (List.mem_cons_of_mem _ among)) _

theorem appended_decimalDigits (n : Nat)
    : appended 0 ((decimalDigits n).filterMap digit?) = n := by
  rw [appended_filterMap_digit? (isDigit_of_mem_decimalDigits n)]
  exact Nat.ofDigitChars_ten_toDigits

/-- Of digits that are not all kept, those kept and one more would be too great. -/
theorem size_mul_pow_le {n : Nat} {digits : List (Fin 10)} (some : (absorb n digits).2 ≠ 0)
    : UInt64.size * 10 ^ (absorb n digits).2 ≤ 10 * appended n digits := by
  obtain all | ⟨kept, d, later, rfl, absorbed, large⟩ := absorb_cases n digits
  · rw [all] at some
    exact (some rfl).elim
  · rw [absorbed, appended_append, Nat.pow_succ, ← Nat.mul_assoc, Nat.mul_comm]
    refine Nat.mul_le_mul_left 10 (Nat.le_trans (Nat.mul_le_mul_right _ large) ?_)
    exact mul_pow_le_appended _ later

theorem exists_kept (n : Nat) (digits : List (Fin 10))
    : ∃ kept rest,
        digits = kept ++ rest ∧ absorb n digits = (appended n kept, rest.length) := by
  obtain all | ⟨kept, d, later, same, absorbed, _⟩ := absorb_cases n digits
  · exact ⟨digits, [], (List.append_nil digits).symm, all⟩
  · exact ⟨kept, d :: later, same, absorbed⟩

/-- The digits kept before the point and those kept after it make up no more than all of them, in
the places that they had. If digits before the point are left out, those that are kept after it
count for no more than these.
-/
theorem appended_absorb_mul_le {n : Nat} {digits kept : List (Fin 10)}
    (small : appended (absorb n digits).1 kept < UInt64.size)
    : appended (absorb n digits).1 kept * 10 ^ (absorb n digits).2
      ≤ appended (appended n digits) kept := by
  by_cases whole : (absorb n digits).2 = 0
  · obtain all | ⟨_, _, _, _, absorbed, _⟩ := absorb_cases n digits
    · rw [all, Nat.pow_zero, Nat.mul_one]
    · rw [absorbed] at whole
      cases whole
  have large := size_mul_pow_le whole
  cases kept with
  | nil =>
      obtain ⟨first, rest, same, absorbed⟩ := exists_kept n digits
      rw [absorbed, same, appended_append]
      exact mul_pow_le_appended _ rest
  | cons d later =>
      refine Nat.le_trans ?_ (mul_pow_le_appended _ (d :: later))
      have ten : 10 ≤ 10 ^ (d :: later).length := by
        rw [List.length_cons, Nat.pow_succ']
        exact Nat.le_mul_of_pos_right 10 (Nat.pow_pos (by decide))
      calc _ ≤ UInt64.size * 10 ^ (absorb n digits).2 :=
            Nat.mul_le_mul_right _ (Nat.le_of_lt small)
        _ ≤ 10 * appended n digits := large
        _ = appended n digits * 10 := Nat.mul_comm _ _
        _ ≤ appended n digits * 10 ^ (d :: later).length := Nat.mul_le_mul_left _ ten

/-- The leading digits of a literal make up no more than the number that it writes. -/
theorem exists_leading (number : Number)
    : ∃ places : Nat,
        number.leading.2 = number.scale + places
        ∧ number.leading.1 * 10 ^ places ≤ number.digits
        ∧ number.leading.1 < UInt64.size := by
  obtain ⟨negative, whole, fraction, exponent⟩ := number
  have value := appended_decimalDigits whole
  generalize wholeDigits : (decimalDigits whole).filterMap digit? = digits at value
  have fits : (absorb 0 digits).1 < UInt64.size := absorb_lt (by decide) digits
  obtain ⟨kept, rest, rfl, absorbed⟩ := exists_kept (absorb 0 digits).1 fraction
  have small := absorb_lt fits (kept ++ rest)
  rw [absorbed] at small
  have bound := appended_absorb_mul_le small
  rw [value] at bound
  simp only [leading, wholeDigits, absorbed]
  refine ⟨(absorb 0 digits).2 + rest.length, ?_, ?_, small⟩
  · simp only [scale, List.length_append]
    omega
  · rw [Nat.pow_add, ← Nat.mul_assoc, Number.digits]
    change _ ≤ appended whole (kept ++ rest)
    rw [appended_append]
    exact Nat.le_trans (Nat.mul_le_mul_right _ bound) (mul_pow_le_appended _ rest)

/-- A power of ten that belongs to the leading digits keeps them within what bounds the number. -/
theorem leading_mul_pow_le {number : Number} {bound power : Nat} (h : number.AtMost bound)
    (positive : number.leading.2 = power)
    : number.leading.1 * 10 ^ power ≤ bound := by
  obtain ⟨places, same, le, _⟩ := number.exists_leading
  rw [AtMost, Nat.pow_eq, Nat.pow_eq] at h
  rw [positive] at same
  obtain ⟨n, scale | scale⟩ := number.scale.eq_nat_or_neg
  · have total : power = places + n := by omega
    have up : number.scale.toNat = n := by omega
    have down : (-number.scale).toNat = 0 := by omega
    rw [up, down, Nat.pow_zero, Nat.mul_one] at h
    rw [total, Nat.pow_add, ← Nat.mul_assoc]
    exact Nat.le_trans (Nat.mul_le_mul_right _ le) h
  · have total : places = power + n := by omega
    have up : number.scale.toNat = 0 := by omega
    have down : (-number.scale).toNat = n := by omega
    rw [up, down, Nat.pow_zero, Nat.mul_one] at h
    rw [total, Nat.pow_add, ← Nat.mul_assoc] at le
    exact Nat.le_of_mul_le_mul_right (Nat.le_trans le h) (Nat.pow_pos (by decide))

-----------------------------------------------------------------------------------------
-- The number that they make
-----------------------------------------------------------------------------------------

theorem pow_le_one : 2 ^ 52 ≤ Double.one := by decide +kernel

theorem limit_eq : Double.limit = (1 <<< 973) * 2 ^ 51 * Double.one := by decide +kernel

theorem safelyFinite_eq : Double.safelyFinite = (1 <<< 973) * (2 ^ 51 - 1) := by decide +kernel

/-- A whole number from one on is at least one when rounded, and exceeds itself by at most one
part in 2 ^ 53.
-/
theorem units_ofNat {n : Nat} (positive : 0 < n)
    : Double.one ≤ (Double.Magnitude.ofNat n).units
      ∧ (Double.Magnitude.ofNat n).units * 2 ^ 53 ≤ n * Double.one * (2 ^ 53 + 1) := by
  have least : Double.one ≤ n * Double.one := Nat.le_mul_of_pos_left _ positive
  constructor
  · refine Double.Magnitude.shift_le_round Nat.one_pos ?_
    rw [Nat.mul_one]
    exact least
  · have large : 2 ^ 52 * 1 ≤ n * Double.one := by
      rw [Nat.mul_one]
      exact Nat.le_trans pow_le_one least
    have close := Double.Magnitude.round_mul_le large
    rw [Nat.mul_one] at close
    exact close

/-- Three roundings, each by one part in 2 ^ 53, together add less than four such parts. -/
theorem lt_of_rounded_mul {bound one m n x y z : Nat} (positive : 0 < bound * one * one)
    (first : x * 2 ^ 53 ≤ m * one * (2 ^ 53 + 1)) (second : y * 2 ^ 53 ≤ n * one * (2 ^ 53 + 1))
    (product : z * one * 2 ^ 53 ≤ x * y * (2 ^ 53 + 1)) (h : m * n ≤ bound * (2 ^ 51 - 1))
    : z < bound * 2 ^ 51 * one := by
  have parts : (2 ^ 51 - 1) * (2 ^ 53 + 1) ^ 3 < 2 ^ 51 * 2 ^ 159 := by decide +kernel
  refine Nat.lt_of_mul_lt_mul_right (a := one * 2 ^ 159) ?_
  calc z * (one * 2 ^ 159)
      = z * one * 2 ^ 53 * 2 ^ 106 := by ring
    _ ≤ x * y * (2 ^ 53 + 1) * 2 ^ 106 := Nat.mul_le_mul_right _ product
    _ = x * 2 ^ 53 * (y * 2 ^ 53) * (2 ^ 53 + 1) := by ring
    _ ≤ m * one * (2 ^ 53 + 1) * (n * one * (2 ^ 53 + 1)) * (2 ^ 53 + 1) :=
      Nat.mul_le_mul_right _ (Nat.mul_le_mul first second)
    _ = m * n * (one * one * (2 ^ 53 + 1) ^ 3) := by ring
    _ ≤ bound * (2 ^ 51 - 1) * (one * one * (2 ^ 53 + 1) ^ 3) := Nat.mul_le_mul_right _ h
    _ = bound * one * one * ((2 ^ 51 - 1) * (2 ^ 53 + 1) ^ 3) := by ring
    _ < bound * one * one * (2 ^ 51 * 2 ^ 159) := Nat.mul_lt_mul_of_pos_left parts positive
    _ = bound * 2 ^ 51 * one * (one * 2 ^ 159) := by ring

/-- The product of two rounded numbers, rounded as well, is finite if that of the numbers is
clearly so.
-/
theorem units_mul_lt {m n : Nat} (first : 0 < m) (second : 0 < n)
    (h : m * n ≤ Double.safelyFinite)
    : ((Double.Magnitude.ofNat m).mul (.ofNat n)).units < Double.limit := by
  obtain ⟨least, close⟩ := units_ofNat first
  obtain ⟨least', close'⟩ := units_ofNat second
  have large : 2 ^ 52 * Double.one
      ≤ (Double.Magnitude.ofNat m).units * (Double.Magnitude.ofNat n).units :=
    Nat.mul_le_mul (Nat.le_trans pow_le_one least) least'
  have product := Double.Magnitude.round_mul_le large
  rw [safelyFinite_eq] at h
  rw [limit_eq]
  exact lt_of_rounded_mul (by decide +kernel) close close' product h

/-- Division by a power of ten does not take a magnitude above a power of two, by following the
division of parts.
-/
theorem units_divide_le {x : Double.Magnitude} {bound : Nat} (h : x.units ≤ 1 <<< bound)
    (exponent : Nat)
    : (divide x exponent).units ≤ 1 <<< bound := by
  have part {y : Double.Magnitude} (h : y.units ≤ 1 <<< bound) (power : Nat)
      : (y.div (powerOfTen power)).units ≤ 1 <<< bound :=
    Double.Magnitude.round_le_shift
      (Nat.mul_le_mul h (units_ofNat (Nat.pow_pos (by decide))).1)
  fun_induction divide x exponent with
  | case1 x exponent => exact part h exponent
  | case2 => exact h
  | case3 x exponent _ _ ih => exact ih (part h 308)

/-- Leading digits of 64 bits have a finite magnitude together with their power of ten, if with a
positive power they are clearly below the limit.
-/
theorem exists_scaled? {significand : Nat} (fits : significand < UInt64.size) {exponent : Int}
    (h : ∀ power : Nat, exponent = power → significand * 10 ^ power ≤ Double.safelyFinite)
    : ∃ magnitude, scaled? significand exponent = some magnitude
      ∧ magnitude.units < Double.limit := by
  have whole : (Double.Magnitude.ofNat significand).units ≤ 1 <<< 1138 := by
    refine Double.Magnitude.round_le_shift ?_
    rw [Nat.mul_one]
    exact Nat.le_trans (Nat.mul_le_mul_right _ (Nat.le_of_lt fits)) (by decide +kernel)
  have within : 1 <<< 1138 < Double.limit := by decide +kernel
  cases exponent with
  | negSucc n =>
      exact ⟨_, rfl, Nat.lt_of_le_of_lt (units_divide_le whole _) within⟩
  | ofNat n =>
      have bound := h n rfl
      rw [scaled?]
      by_cases zero : significand = 0
      · subst zero
        have nothing : (Double.Magnitude.ofNat 0).units = 0 := by decide +kernel
        split
        · refine ⟨_, rfl, Nat.lt_of_le_of_lt (Double.Magnitude.round_le_shift ?_) within⟩
          rw [nothing, Nat.zero_mul]
          exact Nat.zero_le _
        · exact ⟨_, by rw [if_pos rfl], Nat.lt_of_le_of_lt whole within⟩
      · have positive := Nat.pos_of_ne_zero zero
        have small : n ≤ 308 := by
          refine Nat.le_of_not_lt fun great => ?_
          obtain ⟨more, rfl⟩ : ∃ more, n = 200 + (109 + more) := ⟨n - 309, by omega⟩
          rw [Nat.pow_add, Nat.pow_add] at bound
          have tens : 10 ^ 200 * 10 ^ 109 ≤ significand * (10 ^ 200 * (10 ^ 109 * 10 ^ more)) := by
            refine Nat.le_trans ?_ (Nat.le_mul_of_pos_left _ positive)
            exact Nat.mul_le_mul_left _ (Nat.le_mul_of_pos_right _ (Nat.pow_pos (by decide)))
          exact absurd (Nat.le_trans tens bound) (by decide +kernel)
        rw [if_pos small]
        exact ⟨_, rfl, units_mul_lt positive (Nat.pow_pos (by decide)) bound⟩

/-- A literal for a number that is clearly below the greatest floating point number stands for
one.
-/
theorem isSome_float? {number : Number} (h : number.AtMost Double.safelyFinite)
    : number.float?.isSome := by
  obtain ⟨_, _, _, fits⟩ := number.exists_leading
  obtain ⟨magnitude, made, finite⟩ := exists_scaled? fits fun _ => leading_mul_pow_le h
  rw [float?, made, Option.bind_some, dif_pos finite]
  rfl

end Number

end Json

end CardListing
