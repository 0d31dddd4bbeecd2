/-!
Sets of characters given by ranges of code points, the form in which character
properties are published.
-/

namespace CardListing

/-- A set of characters as inclusive ranges of code points. -/
abbrev CharRanges := List (Nat × Nat)

/-- Whether the code point of the character lies in one of the ranges. -/
def CharRanges.contains (ranges : CharRanges) (c : Char) : Bool :=
  ranges.any fun range => range.1 ≤ c.toNat && c.toNat ≤ range.2

/-- Membership names a range around the code point, by unfolding the search. -/
theorem CharRanges.contains_eq_true_iff (ranges : CharRanges) (c : Char)
    : ranges.contains c = true
      ↔ ∃ range ∈ ranges, range.1 ≤ c.toNat ∧ c.toNat ≤ range.2 := by
  simp [CharRanges.contains]

/-- Whether each range of one table lies before or behind each of the other. -/
def CharRanges.areApart (left right : CharRanges) : Bool :=
  left.all fun l => right.all fun r => l.2.blt r.1 || r.2.blt l.1

/-- Tables that are apart have no character in common. -/
theorem CharRanges.contains_eq_false_of_areApart {left right : CharRanges}
    (apart : left.areApart right = true) {c : Char} (h : left.contains c = true)
    : right.contains c = false := by
  obtain ⟨l, among, first, last⟩ := (contains_eq_true_iff left c).mp h
  apply Bool.eq_false_iff.mpr
  intro both
  obtain ⟨r, among', first', last'⟩ := (contains_eq_true_iff right c).mp both
  have sides := List.all_eq_true.mp (List.all_eq_true.mp apart l among) r among'
  rcases (Bool.or_eq_true _ _).mp sides with before | behind
  · have := Nat.blt_eq.mp before
    omega
  · have := Nat.blt_eq.mp behind
    omega

end CardListing
