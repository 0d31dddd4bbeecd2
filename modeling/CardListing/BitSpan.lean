/-!
Spans of bits in a word of at most 64 bits. Bits are numbered from 1 at the most
significant end, so bit 1 of a word of `width` bits has the weight `2 ^ (width - 1)` and
bit `width` the weight 1. A span covers its first and its last bit, and its value is the
number that its bits spell.
-/

namespace CardListing

/-- The word whose lowest bits are set, all of them from 64 on. -/
def lowOnes (bits : Nat) : UInt64 :=
  if 64 ≤ bits then 0xFFFFFFFFFFFFFFFF else (1 <<< UInt64.ofNat bits) - 1

/-- A span of bits, both ends included. -/
structure BitSpan where
  /-- The number of the most significant bit of the span. -/
  first : Nat
  /-- The number of the least significant bit of the span. -/
  last : Nat
  one_le_first : 1 ≤ first := by decide
  first_le_last : first ≤ last := by decide
  last_le : last ≤ 64 := by decide
deriving DecidableEq, Repr

namespace BitSpan

/-- The span with the given ends, if they are in order and within 1 to 64. -/
def ofBounds? (first last : Nat) : Option BitSpan :=
  if h : 1 ≤ first ∧ first ≤ last ∧ last ≤ 64 then
    some ⟨first, last, h.1, h.2.1, h.2.2⟩
  else
    none

def length (span : BitSpan) : Nat := span.last - span.first + 1

/-- The largest value the span can hold. -/
def maxValue (span : BitSpan) : UInt64 := lowOnes span.length

def fits (span : BitSpan) (value : UInt64) : Bool := value ≤ span.maxValue

/-- Whether the span lies inside a word of the given width. -/
def isWithin (span : BitSpan) (width : Nat) : Bool := width ≤ 64 && span.last ≤ width

/-- The number of bits of the word below the span. -/
def shift (span : BitSpan) (width : Nat) : Nat := width - span.last

/-- The value of the span in a word of the given width. -/
def get (span : BitSpan) (word : UInt64) (width : Nat) : UInt64 :=
  (word >>> UInt64.ofNat (span.shift width)) &&& span.maxValue

/-- The word with the span replaced by the lowest bits of `part`. All other bits stay as
they are, also those above the width. -/
def set (span : BitSpan) (word : UInt64) (width : Nat) (part : UInt64) : UInt64 :=
  let amount := UInt64.ofNat (span.shift width)
  let mask := span.maxValue <<< amount
  (word &&& ~~~mask) ||| ((part <<< amount) &&& mask)

/-- Bounds make a span exactly when they are in order and within 1 to 64. -/
theorem ofBounds?_eq_some_iff (first last : Nat) (span : BitSpan)
    : ofBounds? first last = some span ↔ span.first = first ∧ span.last = last := by
  unfold ofBounds?
  constructor
  · intro h
    split at h
    · cases h
      exact ⟨rfl, rfl⟩
    · cases h
  · rintro ⟨rfl, rfl⟩
    rw [dif_pos ⟨span.one_le_first, span.first_le_last, span.last_le⟩]

theorem length_le (span : BitSpan) : span.length ≤ 64 := by
  have := span.one_le_first
  have := span.first_le_last
  have := span.last_le
  unfold length
  omega

theorem one_le_length (span : BitSpan) : 1 ≤ span.length := by
  unfold length
  omega

/-- A span lies inside a word exactly if its last bit does and the word is not too wide. -/
theorem isWithin_iff (span : BitSpan) (width : Nat)
    : span.isWithin width = true ↔ span.last ≤ width ∧ width ≤ 64 := by
  rw [isWithin, Bool.and_eq_true, decide_eq_true_eq, decide_eq_true_eq, and_comm]

/-- Inside a word, a span and the bits below it need no more room than the word has. -/
theorem shift_add_length_le (span : BitSpan) (width : Nat)
    (h : span.isWithin width = true)
    : span.shift width + span.length ≤ width ∧ width ≤ 64 := by
  have := span.one_le_first
  have := span.first_le_last
  rw [isWithin_iff] at h
  unfold shift length
  omega

end BitSpan

end CardListing
