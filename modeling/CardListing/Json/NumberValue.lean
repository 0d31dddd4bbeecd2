import CardListing.Decimal.Layout
import CardListing.Json.Number

/-!
What number literals stand for. Integers of 64 bits are exact; all other numbers become
floating point, by one multiplication or division of as many leading digits as fit in 64
bits. The result can be off by the rounding of these two steps, and is what a message
about the number shows.
-/

namespace CardListing

namespace Json

namespace Number

inductive Value where
  /-- An integer of 64 bits, with or without sign. -/
  | integer (n : Int)
  | float (x : Double)
deriving DecidableEq, Repr

/-- Appends digits to a number while it fits in 64 bits, and tells how many did not. -/
def absorb (n : Nat) : List (Fin 10) → Nat × Nat
  | [] => (n, 0)
  | d :: rest =>
    if 10 * n + d.val < UInt64.size then absorb (10 * n + d.val) rest else (n, rest.length + 1)

/-- The leading digits of the literal and the power of ten that belongs to them. -/
def leading (number : Number) : Nat × Int :=
  let digits := (decimalDigits number.whole).filterMap digit?
  let (whole, dropped) := absorb 0 digits
  let (significand, ignored) := absorb whole number.fraction
  (significand, number.exponent.getD 0 + dropped - (number.fraction.length - ignored : Nat))

/-- A power of ten as a magnitude; the greatest finite one has exponent 308. -/
def powerOfTen (exponent : Nat) : Double.Magnitude := .ofNat (Nat.pow 10 exponent)

/-- Divides by a power of ten, in parts where the power is too great. -/
def divide (x : Double.Magnitude) (exponent : Nat) : Double.Magnitude :=
  if exponent ≤ 308 then x.div (powerOfTen exponent)
  else if x.units = 0 then x
  else divide (x.div (powerOfTen 308)) (exponent - 308)
termination_by exponent
decreasing_by omega

/-- The magnitude of a number of 64 bits times a power of ten, unless the power is too great. -/
def scaled? (significand : Nat) : Int → Option Double.Magnitude
  | .negSucc n => some (divide (.ofNat significand) (n + 1))
  | .ofNat n =>
    if n ≤ 308 then some ((Double.Magnitude.ofNat significand).mul (powerOfTen n))
    else if significand = 0 then some (.ofNat 0)
    else none

/-- The floating point number of a literal, if it is not too great for one. -/
def float? (number : Number) : Option Double :=
  (scaled? number.leading.1 number.leading.2).bind fun magnitude =>
    if finite : magnitude.units < Double.limit then
      some { negative := number.negative, magnitude, finite }
    else none

/-- The integer of 64 bits that the literal is, with or without sign. A literal with a point or
an exponent is none, and neither is a zero with a sign. -/
def integer? (number : Number) : Option Int :=
  if number.isInteger ∧ ¬number.negative ∧ number.whole < UInt64.size then
    some number.whole
  else if number.isInteger ∧ number.negative ∧ 0 < number.whole
      ∧ number.whole ≤ 0x8000000000000000 then
    some (-(number.whole : Int))
  else
    none

/-- What the literal stands for, if it is not out of range. -/
def value? (number : Number) : Option Value :=
  match number.integer? with
  | some n => some (.integer n)
  | none => number.float?.map .float

/-- The number of all digits of the literal, before and after the point. -/
def digits (number : Number) : Nat :=
  number.fraction.foldl (fun n d => 10 * n + d.val) number.whole

/-- The power of ten that belongs to the last digit. -/
def scale (number : Number) : Int := number.exponent.getD 0 - (number.fraction.length : Int)

/-- The number that is written, sign aside, is at most the bound. -/
def AtMost (number : Number) (bound : Nat) : Prop :=
  number.digits * Nat.pow 10 number.scale.toNat ≤ bound * Nat.pow 10 (-number.scale).toNat

instance (number : Number) (bound : Nat) : Decidable (number.AtMost bound) :=
  inferInstanceAs (Decidable (_ ≤ _))

end Number

/-- Messages write numbers positionally up to sixteen digits before the point and five
places after it, keep a zero after the point and sign every exponent. -/
def messageLayout : DecimalLayout where
  leastPositional := -5
  greatestPositional := 15
  pointZero := true
  signedExponent := true

end Json

end CardListing
