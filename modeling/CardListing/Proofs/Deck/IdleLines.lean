import CardListing.Deck.Basic
import CardListing.Proofs.Deck.BuilderSegments
import Mathlib.Data.List.Forall2

/-! What a deck takes from its lines. It depends on no more of a line than whether it is a
head, what it opens or announces and the row that it offers, so lines of which all this is
the same can stand for each other and a line without any of it can be left out.
-/

namespace CardListing

namespace Reading

/-- A line of this reading neither starts an entry nor continues one. -/
structure Idle (reading : Reading) : Prop where
  noHead : reading.isHead = false
  noRow : reading.continuation? = none

/-- Lines of the two readings have the same part in a deck. -/
structure Alike (left right : Reading) : Prop where
  isHead : left.isHead = right.isHead
  opened : left.opened? = right.opened?
  directive : left.directive? = right.directive?
  continuation : left.continuation? = right.continuation?

theorem idle_blank : Idle .blank := ⟨rfl, rfl⟩

theorem idle_unnumbered {row : Row} (h : row.isEmpty = true) : Idle (.unnumbered row) :=
  ⟨rfl, if_pos h⟩

theorem Alike.refl (reading : Reading) : reading.Alike reading := ⟨rfl, rfl, rfl, rfl⟩

/-- Lines without a part in a deck are alike. -/
theorem Idle.alike {left right : Reading} (hl : left.Idle) (hr : right.Idle)
    : left.Alike right := by
  have l := opened?_of_not_isHead hl.noHead
  have r := opened?_of_not_isHead hr.noHead
  refine ⟨?_, ?_, ?_, ?_⟩
  · rw [hl.noHead, hr.noHead]
  · rw [l.1, r.1]
  · rw [l.2, r.2]
  · rw [hl.noRow, hr.noRow]

end Reading

namespace Deck

/-- The leading rows depend on which lines are heads and on the rows they offer, by induction
over the pairs of lines.
-/
theorem leadRows_congr {xs ys : List Text}
    (h : List.Forall₂ (fun x y =>
      (Reading.ofLine x).isHead = (Reading.ofLine y).isHead
      ∧ (Reading.ofLine x).continuation? = (Reading.ofLine y).continuation?) xs ys)
    : leadRows xs = leadRows ys := by
  induction h with
  | nil => rfl
  | cons same _ ih => rw [leadRows_cons, leadRows_cons, same.1, same.2, ih]

/-- Lines that are alike one by one have the same segments, by induction over the pairs. -/
theorem segments_congr {xs ys : List Text}
    (h : List.Forall₂ (fun x y => (Reading.ofLine x).Alike (Reading.ofLine y)) xs ys)
    : segments xs = segments ys := by
  induction h with
  | nil => rfl
  | cons alike later ih =>
      have rows := leadRows_congr (later.imp fun _ _ same => ⟨same.isHead, same.continuation⟩)
      rw [segments_cons, segments_cons, alike.directive, alike.opened, rows, ih]

/-- An idle line anywhere in a listing has no part in its segments, by induction over the lines
before it.
-/
theorem segments_append_cons_of_idle (xs ys : List Text) {line : Text}
    (h : (Reading.ofLine line).Idle)
    : segments (xs ++ line :: ys) = segments (xs ++ ys)
      ∧ leadRows (xs ++ line :: ys) = leadRows (xs ++ ys) := by
  induction xs with
  | nil =>
      have none := Reading.opened?_of_not_isHead h.noHead
      constructor
      · simp [segments_cons, none.1, none.2]
      · simp [leadRows_cons, h.noHead, h.noRow]
  | cons x xs ih =>
      obtain ⟨segments, rows⟩ := ih
      constructor
      · rw [List.cons_append, List.cons_append, segments_cons, segments_cons, segments, rows]
      · rw [List.cons_append, List.cons_append, leadRows_cons, leadRows_cons, rows]

theorem ofLines_eq_of_segments_eq {xs ys : List Text} (h : segments xs = segments ys)
    : ofLines xs = ofLines ys := by
  have same : (ofLines xs).entries = (ofLines ys).entries := by
    rw [entries_ofLines, entries_ofLines, h]
  exact congrArg Deck.mk same

theorem ofLines_append_cons_of_idle (xs ys : List Text) {line : Text}
    (h : (Reading.ofLine line).Idle)
    : ofLines (xs ++ line :: ys) = ofLines (xs ++ ys) :=
  ofLines_eq_of_segments_eq (segments_append_cons_of_idle xs ys h).1

theorem ofLines_congr {xs ys : List Text}
    (h : List.Forall₂ (fun x y => (Reading.ofLine x).Alike (Reading.ofLine y)) xs ys)
    : ofLines xs = ofLines ys :=
  ofLines_eq_of_segments_eq (segments_congr h)

end Deck

end CardListing
