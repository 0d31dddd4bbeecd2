import CardListing.Proofs.BitSpan.Bits

/-! Reading and writing a span as exact arithmetic. No step of the computation leaves the
numbers it is made in, and its result is what division and remainder by powers of two give:
the value of the span is taken out of the word and the lowest bits of the part put in.
-/

namespace CardListing

-----------------------------------------------------------------------------------------
-- Steps that may leave their numbers
-----------------------------------------------------------------------------------------

namespace Checked

/-- The difference of two bit numbers, if it is not below zero. -/
def sub? (x y : Nat) : Option Nat := if y ≤ x then some (x - y) else none

/-- The sum of two bit numbers, if 32 bits can hold it. -/
def add? (x y : Nat) : Option Nat := if x + y < 2 ^ 32 then some (x + y) else none

/-- The difference of two words, if it is not below zero. -/
def subWord? (x y : UInt64) : Option UInt64 := if y ≤ x then some (x - y) else none

/-- A word moved to the left, if by less than its width. -/
def shiftLeft? (word : UInt64) (amount : Nat) : Option UInt64 :=
  if amount < 64 then some (word <<< UInt64.ofNat amount) else none

/-- A word moved to the right, if by less than its width. -/
def shiftRight? (word : UInt64) (amount : Nat) : Option UInt64 :=
  if amount < 64 then some (word >>> UInt64.ofNat amount) else none

/-- The lowest bits set, if every step stays within its numbers. -/
def lowOnes? (bits : Nat) : Option UInt64 :=
  if 64 ≤ bits then
    some 0xFFFFFFFFFFFFFFFF
  else
    (shiftLeft? 1 bits).bind fun one => subWord? one 1

theorem lowOnes?_eq (bits : Nat) : lowOnes? bits = some (lowOnes bits) := by
  rw [lowOnes?, lowOnes]
  split
  · rfl
  · rename_i h
    have below : bits < 64 := Nat.lt_of_not_le h
    have positive : (1 : UInt64) ≤ 1 <<< UInt64.ofNat bits := by
      rw [UInt64.le_iff_toNat_le, toNat_one_shiftLeft below]
      exact Nat.two_pow_pos bits
    rw [shiftLeft?, if_pos below, Option.bind_some, subWord?, if_pos positive]

end Checked

namespace BitSpan

open Checked

/-- The number of bits of the span, if every step stays within its numbers. -/
def length? (span : BitSpan) : Option Nat := do
  let further ← sub? span.last span.first
  add? further 1

/-- The number of bits below the span, if every step stays within its numbers. -/
def shift? (span : BitSpan) (width : Nat) : Option Nat := sub? width span.last

/-- The largest value of the span, if every step stays within its numbers. -/
def maxValue? (span : BitSpan) : Option UInt64 := do
  let bits ← span.length?
  lowOnes? bits

/-- The value of the span, if every step stays within its numbers. -/
def get? (span : BitSpan) (word : UInt64) (width : Nat) : Option UInt64 := do
  let amount ← span.shift? width
  let moved ← shiftRight? word amount
  let most ← span.maxValue?
  return moved &&& most

/-- The word with the span replaced, if every step stays within its numbers. -/
def set? (span : BitSpan) (word : UInt64) (width : Nat) (part : UInt64) : Option UInt64 := do
  let amount ← span.shift? width
  let most ← span.maxValue?
  let mask ← shiftLeft? most amount
  let moved ← shiftLeft? part amount
  return (word &&& ~~~mask) ||| (moved &&& mask)

variable {span : BitSpan} {width : Nat}

theorem length?_eq (span : BitSpan) : span.length? = some span.length := by
  have ordered := span.first_le_last
  have last := span.last_le
  have small : span.last - span.first + 1 < 2 ^ 32 := by omega
  simp only [length?, sub?, add?, if_pos ordered, Option.bind_eq_bind, Option.bind_some,
    if_pos small]
  rfl

theorem maxValue?_eq (span : BitSpan) : span.maxValue? = some span.maxValue := by
  simp only [maxValue?, length?_eq, Option.bind_eq_bind, Option.bind_some, lowOnes?_eq]
  rfl

theorem shift?_eq (h : span.isWithin width = true)
    : span.shift? width = some (span.shift width) := by
  rw [shift?, sub?, if_pos ((isWithin_iff span width).mp h).1]
  rfl

theorem get?_eq (word : UInt64) (h : span.isWithin width = true)
    : span.get? word width = some (span.get word width) := by
  simp only [get?, shift?_eq h, shiftRight?, if_pos (shift_lt h), maxValue?_eq,
    Option.bind_eq_bind, Option.bind_some]
  rfl

theorem set?_eq (word part : UInt64) (h : span.isWithin width = true)
    : span.set? word width part = some (span.set word width part) := by
  simp only [set?, shift?_eq h, shiftLeft?, if_pos (shift_lt h), maxValue?_eq,
    Option.bind_eq_bind, Option.bind_some]
  rfl

-----------------------------------------------------------------------------------------
-- What is above the span, what it holds and what is below it
-----------------------------------------------------------------------------------------

/-- A word is made of the bits above a span, the value of the span and the bits below it. -/
theorem toNat_eq_above_add_value_add_below (word : UInt64) (h : span.isWithin width = true)
    : word.toNat
      = word.toNat / 2 ^ (span.shift width + span.length)
          * 2 ^ (span.shift width + span.length)
        + (span.get word width).toNat * 2 ^ span.shift width
        + word.toNat % 2 ^ span.shift width := by
  have lower : word.toNat % 2 ^ (span.shift width + span.length)
      = word.toNat % 2 ^ span.shift width
        + 2 ^ span.shift width * (span.get word width).toNat := by
    rw [Nat.pow_add, Nat.mod_mul, toNat_get span word width h]
  have whole := Nat.div_add_mod word.toNat (2 ^ (span.shift width + span.length))
  rw [Nat.mul_comm, lower, Nat.mul_comm (2 ^ span.shift width)] at whole
  omega

theorem toNat_get_mul_le (word : UInt64) (h : span.isWithin width = true)
    : (span.get word width).toNat * 2 ^ span.shift width ≤ word.toNat := by
  have parts := toNat_eq_above_add_value_add_below word h
  omega

/-- Writing a span leaves the bits above it. -/
theorem toNat_set_div (word part : UInt64) (h : span.isWithin width = true)
    : (span.set word width part).toNat / 2 ^ (span.shift width + span.length)
      = word.toNat / 2 ^ (span.shift width + span.length) := by
  refine Nat.eq_of_testBit_eq fun i => ?_
  have outside : ¬ span.Covers width (i + (span.shift width + span.length)) := fun covered =>
    absurd covered.2 (Nat.not_lt_of_le (Nat.le_add_left _ i))
  rw [Nat.testBit_div_two_pow, Nat.testBit_div_two_pow, testBit_set _ _ h, if_neg outside]

/-- Writing a span leaves the bits below it. -/
theorem toNat_set_mod (word part : UInt64) (h : span.isWithin width = true)
    : (span.set word width part).toNat % 2 ^ span.shift width
      = word.toNat % 2 ^ span.shift width := by
  refine Nat.eq_of_testBit_eq fun i => ?_
  rw [Nat.testBit_mod_two_pow, Nat.testBit_mod_two_pow]
  by_cases below : i < span.shift width
  · have outside : ¬ span.Covers width i := fun covered =>
      absurd below (Nat.not_lt_of_le covered.1)
    rw [testBit_set _ _ h, if_neg outside]
  · rw [decide_eq_false below, Bool.false_and, Bool.false_and]

/-- Writing a span takes its value out of the word and puts the lowest bits of the part in. -/
theorem toNat_set (word part : UInt64) (h : span.isWithin width = true)
    : (span.set word width part).toNat
      = word.toNat - (span.get word width).toNat * 2 ^ span.shift width
        + part.toNat % 2 ^ span.length * 2 ^ span.shift width := by
  have before := toNat_eq_above_add_value_add_below word h
  have after := toNat_eq_above_add_value_add_below (span.set word width part) h
  rw [toNat_set_div word part h, toNat_set_mod word part h, toNat_get_set word part h] at after
  omega

-----------------------------------------------------------------------------------------
-- Writing and reading again
-----------------------------------------------------------------------------------------

/-- Writing the value that a span has in another word brings the bits of that word. -/
theorem testBit_set_get (word source : UInt64) (h : span.isWithin width = true) (i : Nat)
    : (span.set word width (span.get source width)).toNat.testBit i
      = if span.Covers width i then source.toNat.testBit i else word.toNat.testBit i := by
  rw [testBit_set _ _ h]
  by_cases covered : span.Covers width i
  · rw [if_pos covered, if_pos covered, covered.testBit_get source h]
  · rw [if_neg covered, if_neg covered]

theorem set_get (word : UInt64) (h : span.isWithin width = true)
    : span.set word width (span.get word width) = word := by
  refine ext_testBit fun i => ?_
  rw [testBit_set_get word word h, ite_self]

theorem set_set (word first second : UInt64) (h : span.isWithin width = true)
    : span.set (span.set word width first) width second = span.set word width second := by
  refine ext_testBit fun i => ?_
  rw [testBit_set _ second h, testBit_set word first h, testBit_set word second h]
  by_cases covered : span.Covers width i
  · rw [if_pos covered, if_pos covered]
  · rw [if_neg covered, if_neg covered, if_neg covered]

/-- A part is read back whole exactly if it fits. -/
theorem get_set_eq_iff (word part : UInt64) (h : span.isWithin width = true)
    : span.get (span.set word width part) width = part ↔ span.fits part = true := by
  rw [fits_iff, ← UInt64.toNat_inj, toNat_get_set word part h]
  exact Nat.mod_eq_iff_lt (Nat.ne_of_gt (Nat.two_pow_pos span.length))

-----------------------------------------------------------------------------------------
-- All at once
-----------------------------------------------------------------------------------------

/-- Reading and writing the span in words of a width is exact arithmetic, where the span has
`count` bits and lies `amount` bits above the least significant. No step leaves its numbers,
and the results are those of division and remainder.
-/
structure Exact (span : BitSpan) (width count amount : Nat) : Prop where
  length : span.length? = some count
  shift : span.shift? width = some amount
  amount_lt : amount < 64
  maxValue : span.maxValue? = some span.maxValue
  stays_get : ∀ word, span.get? word width = some (span.get word width)
  stays_set : ∀ word part, span.set? word width part = some (span.set word width part)
  get : ∀ word, (span.get word width).toNat = word.toNat / 2 ^ amount % 2 ^ count
  get_le : ∀ word, (span.get word width).toNat * 2 ^ amount ≤ word.toNat
  set
    : ∀ word part,
        (span.set word width part).toNat
        = word.toNat - (span.get word width).toNat * 2 ^ amount
          + part.toNat % 2 ^ count * 2 ^ amount
  keeps
    : ∀ word part i,
        i < amount ∨ amount + count ≤ i
        → (span.set word width part).toNat.testBit i = word.toNat.testBit i
  get_set
    : ∀ word part, (span.get (span.set word width part) width).toNat = part.toNat % 2 ^ count
  set_get : ∀ word, span.set word width (span.get word width) = word
  set_set
    : ∀ word first second,
        span.set (span.set word width first) width second = span.set word width second
  get_set_eq_iff
    : ∀ word part,
        span.get (span.set word width part) width = part ↔ span.fits part = true

theorem exact_of_isWithin (h : span.isWithin width = true)
    : span.Exact width span.length (span.shift width) where
  length := length?_eq span
  shift := shift?_eq h
  amount_lt := shift_lt h
  maxValue := maxValue?_eq span
  stays_get word := get?_eq word h
  stays_set word part := set?_eq word part h
  get word := toNat_get span word width h
  get_le word := toNat_get_mul_le word h
  set word part := toNat_set word part h
  keeps := by
    intro word part i outside
    have apart : ¬ span.Covers width i := by
      rw [Covers]
      omega
    rw [testBit_set _ _ h, if_neg apart]
  get_set word part := toNat_get_set word part h
  set_get word := set_get word h
  set_set word first second := set_set word first second h
  get_set_eq_iff word part := get_set_eq_iff word part h

/-- Ends make a span exactly if they are in order and within 1 to 64, and the span lies within
the words of a width exactly if its last bit and 64 allow it. Then reading and writing it is
exact arithmetic for all words and parts, and so is setting any number of lowest bits.
-/
theorem exact_ofBounds?
    : (∀ bits,
        Checked.lowOnes? bits = some (lowOnes bits)
        ∧ (lowOnes bits).toNat = 2 ^ min bits 64 - 1)
      ∧ ∀ first last,
        ((∃ span, ofBounds? first last = some span)
          ↔ 1 ≤ first ∧ first ≤ last ∧ last ≤ 64)
        ∧ ∀ span width,
          ofBounds? first last = some span
          → (span.isWithin width = true ↔ last ≤ width ∧ width ≤ 64)
            ∧ (span.isWithin width = true
              → span.Exact width (last - first + 1) (width - last)) := by
  refine ⟨?_, fun first last => ⟨?_, ?_⟩⟩
  · intro bits
    exact ⟨Checked.lowOnes?_eq bits, toNat_lowOnes bits⟩
  · constructor
    · rintro ⟨span, made⟩
      obtain ⟨rfl, rfl⟩ := (ofBounds?_eq_some_iff _ _ _).mp made
      exact ⟨span.one_le_first, span.first_le_last, span.last_le⟩
    · rintro ⟨positive, ordered, bounded⟩
      exact ⟨⟨first, last, positive, ordered, bounded⟩,
        (ofBounds?_eq_some_iff _ _ _).mpr ⟨rfl, rfl⟩⟩
  · intro span width made
    obtain ⟨rfl, rfl⟩ := (ofBounds?_eq_some_iff _ _ _).mp made
    exact ⟨isWithin_iff span width, exact_of_isWithin⟩

/-- A part of 13 bits is written into a span of 12 in a word with bits above its width: the
part loses its highest bit, and the word keeps all others.
-/
theorem exact_ofBounds?_stray_bits
    : ofBounds? 13 24 = some { first := 13, last := 24 }
      ∧ isWithin { first := 13, last := 24 } 48 = true
      ∧ (set { first := 13, last := 24 } 0xFFFFFFFFFFFFFFFF 48 0x1ABC).toNat
        = 0xFFFFFFFABCFFFFFF := by
  have made : ofBounds? 13 24 = some { first := 13, last := 24 } := rfl
  have within : isWithin { first := 13, last := 24 } 48 = true := rfl
  have exact := ((exact_ofBounds?.2 13 24).2 _ 48 made).2 within
  refine ⟨made, within, ?_⟩
  rw [exact.set, exact.get]
  rfl

end BitSpan

end CardListing
