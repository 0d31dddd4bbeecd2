import CardListing.BitSpan.Arithmetic

/-! Spans seen bit by bit. Reading a span takes the bits that it covers and writing it replaces
those and no others, so what is written into one span is read back from it, and a span that
shares no bit with it does not notice.
-/

namespace CardListing

namespace BitSpan

/-- In a word of the width, the bit `i` places above the least significant belongs to the span.
-/
def Covers (span : BitSpan) (width i : Nat) : Prop :=
  span.shift width ≤ i ∧ i < span.shift width + span.length

instance (span : BitSpan) (width i : Nat) : Decidable (span.Covers width i) :=
  inferInstanceAs (Decidable (_ ∧ _))

/-- The spans have no bit in common, whatever the width of the word. -/
def Disjoint (left right : BitSpan) : Prop := left.last < right.first ∨ right.last < left.first

instance (left right : BitSpan) : Decidable (left.Disjoint right) :=
  inferInstanceAs (Decidable (_ ∨ _))

variable {span other : BitSpan} {width : Nat}

/-- Bits of a span in a word that both lie within are counted from its first one. -/
theorem covers_shift_add (span : BitSpan) (width : Nat) {j : Nat} (h : j < span.length)
    : span.Covers width (span.shift width + j) :=
  ⟨Nat.le_add_right _ _, Nat.add_lt_add_left h _⟩

theorem Covers.lt {i : Nat} (h : span.Covers width i) (within : span.isWithin width = true)
    : i < width := by
  have room := (span.shift_add_length_le width within).1
  exact Nat.lt_of_lt_of_le h.2 room

theorem Disjoint.not_covers {i : Nat} (h : span.Disjoint other)
    (spanWithin : span.isWithin width = true) (otherWithin : other.isWithin width = true)
    (covered : other.Covers width i)
    : ¬ span.Covers width i := by
  intro both
  have := span.one_le_first
  have := span.first_le_last
  have := other.one_le_first
  have := other.first_le_last
  rw [isWithin_iff] at spanWithin otherWithin
  simp only [Covers, shift, length] at covered both
  rcases h with below | above <;> omega

-----------------------------------------------------------------------------------------
-- Single bits
-----------------------------------------------------------------------------------------

/-- Words are the same if their bits are. -/
theorem ext_testBit {left right : UInt64}
    (h : ∀ i, left.toNat.testBit i = right.toNat.testBit i)
    : left = right :=
  UInt64.toNat_inj.mp (Nat.eq_of_testBit_eq h)

theorem testBit_shiftLeft (word : UInt64) {amount : Nat} (h : amount < 64) (i : Nat)
    : (word <<< UInt64.ofNat amount).toNat.testBit i
      = (decide (i < 64) && (decide (amount ≤ i) && word.toNat.testBit (i - amount))) := by
  rw [UInt64.toNat_shiftLeft, toNat_ofNat_mod h, Nat.testBit_mod_two_pow, Nat.testBit_shiftLeft]

theorem testBit_shiftRight (word : UInt64) {amount : Nat} (h : amount < 64) (i : Nat)
    : (word >>> UInt64.ofNat amount).toNat.testBit i = word.toNat.testBit (amount + i) := by
  rw [UInt64.toNat_shiftRight, toNat_ofNat_mod h, Nat.testBit_shiftRight]

theorem testBit_not (word : UInt64) (i : Nat)
    : (~~~word).toNat.testBit i = (decide (i < 64) && !word.toNat.testBit i) := by
  rw [← UInt64.toNat_toBitVec, ← UInt64.toNat_toBitVec, UInt64.toBitVec_not,
    BitVec.testBit_toNat, BitVec.testBit_toNat, BitVec.getLsbD_not]

theorem testBit_of_le (word : UInt64) {i : Nat} (h : 64 ≤ i) : word.toNat.testBit i = false := by
  refine Nat.testBit_lt_two_pow (Nat.lt_of_lt_of_le word.toNat_lt ?_)
  exact Nat.pow_le_pow_right (by decide) h

theorem shift_lt (h : span.isWithin width = true) : span.shift width < 64 := by
  have room := span.shift_add_length_le width h
  have := span.one_le_length
  omega

/-- The largest value of a span, moved to where the span is, sets the bits that it covers. -/
theorem testBit_mask (h : span.isWithin width = true) (i : Nat)
    : (span.maxValue <<< UInt64.ofNat (span.shift width)).toNat.testBit i
      = decide (span.Covers width i) := by
  have room := span.shift_add_length_le width h
  rw [testBit_shiftLeft _ (shift_lt h), toNat_maxValue, Nat.testBit_two_pow_sub_one,
    ← Bool.decide_and, ← Bool.decide_and]
  refine decide_eq_decide.mpr ?_
  rw [Covers]
  omega

theorem testBit_get (word : UInt64) (h : span.isWithin width = true) (i : Nat)
    : (span.get word width).toNat.testBit i
      = (decide (i < span.length) && word.toNat.testBit (span.shift width + i)) := by
  rw [toNat_get span word width h, Nat.testBit_mod_two_pow, Nat.testBit_div_two_pow,
    Nat.add_comm]

/-- A bit that the span covers is found among those read from it. -/
theorem Covers.testBit_get {i : Nat} (covered : span.Covers width i) (word : UInt64)
    (h : span.isWithin width = true)
    : (span.get word width).toNat.testBit (i - span.shift width) = word.toNat.testBit i := by
  obtain ⟨start, stop⟩ := covered
  have below : i - span.shift width < span.length := by omega
  rw [BitSpan.testBit_get word h, decide_eq_true below, Bool.true_and, Nat.add_sub_cancel' start]

/-- Writing a span replaces the bits that it covers by those of the part and keeps the others.
-/
theorem testBit_set (word part : UInt64) (h : span.isWithin width = true) (i : Nat)
    : (span.set word width part).toNat.testBit i
      = if span.Covers width i then
          part.toNat.testBit (i - span.shift width)
        else
          word.toNat.testBit i := by
  rw [set, UInt64.toNat_or, Nat.testBit_or, UInt64.toNat_and, Nat.testBit_and, UInt64.toNat_and,
    Nat.testBit_and, testBit_not, testBit_mask h, testBit_shiftLeft part (shift_lt h)]
  by_cases covered : span.Covers width i
  · have inside : i < 64 := Nat.lt_of_lt_of_le (covered.lt h) (span.shift_add_length_le width h).2
    simp [covered, inside, covered.1]
  · by_cases inside : i < 64
    · simp [covered, inside]
    · simp [covered, testBit_of_le word (Nat.le_of_not_lt inside)]

/-- Reading a span takes no notice of the bits above the width. -/
theorem get_congr {left right : UInt64} (h : span.isWithin width = true)
    (same : left.toNat % 2 ^ width = right.toNat % 2 ^ width)
    : span.get left width = span.get right width := by
  refine ext_testBit fun i => ?_
  rw [testBit_get left h, testBit_get right h]
  by_cases inside : i < span.length
  · have below := (span.covers_shift_add width inside).lt h
    have bit := congrArg (fun number => number.testBit (span.shift width + i)) same
    simp only [Nat.testBit_mod_two_pow, decide_eq_true below, Bool.true_and] at bit
    rw [bit]
  · rw [decide_eq_false inside, Bool.false_and, Bool.false_and]

-----------------------------------------------------------------------------------------
-- What is read after writing
-----------------------------------------------------------------------------------------

/-- The lowest bits of a part are read back from the span that they were written into. -/
theorem toNat_get_set (word part : UInt64) (h : span.isWithin width = true)
    : (span.get (span.set word width part) width).toNat = part.toNat % 2 ^ span.length := by
  refine Nat.eq_of_testBit_eq fun i => ?_
  rw [testBit_get _ h, testBit_set _ _ h, Nat.testBit_mod_two_pow]
  by_cases inside : i < span.length
  · simp [span.covers_shift_add width inside]
  · simp [inside]

/-- A span does not notice what is written into one that has no bit in common with it. -/
theorem get_set_of_disjoint (word part : UInt64) (h : span.isWithin width = true)
    (ho : other.isWithin width = true) (disjoint : span.Disjoint other)
    : span.get (other.set word width part) width = span.get word width := by
  refine ext_testBit fun i => ?_
  rw [testBit_get _ h, testBit_get _ h, testBit_set _ _ ho]
  by_cases inside : i < span.length
  · have apart : ¬ other.Covers width (span.shift width + i) := fun covered =>
      disjoint.not_covers h ho covered (span.covers_shift_add width inside)
    rw [if_neg apart]
  · simp [inside]

/-- Writing a span leaves a word within its width. -/
theorem toNat_set_lt {word : UInt64} (part : UInt64) (h : span.isWithin width = true)
    (fits : word.toNat < 2 ^ width)
    : (span.set word width part).toNat < 2 ^ width := by
  refine Nat.lt_pow_two_of_testBit _ fun i above => ?_
  have outside : ¬ span.Covers width i := fun covered =>
    absurd (covered.lt h) (Nat.not_lt_of_le above)
  rw [testBit_set _ _ h, if_neg outside]
  refine Nat.testBit_lt_two_pow (Nat.lt_of_lt_of_le fits ?_)
  exact Nat.pow_le_pow_right (by decide) above

end BitSpan

end CardListing
