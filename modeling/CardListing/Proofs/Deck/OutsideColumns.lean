import CardListing.Proofs.Deck.BuilderRuns
import CardListing.Proofs.OutsideColumns

/-! Columns outside of the fields that an entry is made of never show in a deck. What stands
past the layout reaches only the texts of directives, and what an unnumbered line has before
its row reaches nothing, although both can decide whether a line is blank.
-/

namespace CardListing

/-- What becomes of the entry that a line starts when the listing is cut at the end of the
layout: a statement stays, a directive keeps its kind and the start of its text.
-/
inductive Entry.CutTo (line : Text) : Entry → Entry → Prop
  | statement {s : Statement} (read : Reading.ofLine line = .numbered s.primary)
    : CutTo line (.statement s) (.statement s)
  | directive {d e : Directive} (read : Reading.ofLine line = .directive d)
    (cut : d.CutTo line e)
    : CutTo line (.directive d) (.directive e)

namespace Deck

/-- The lines that start an entry. -/
def headLines (lines : List Text) : List Text :=
  lines.filter fun line => (Reading.ofLine line).isHead

/-- The listing with blanks before the rows of those unnumbered lines that stand at a chosen
position.
-/
def blankChosen (chosen : Nat → Bool) (lines : List Text) : List Text :=
  lines.mapIdx fun i line =>
    if chosen i ∧ LineKind.ofLine line = .unnumbered then line.blankStart 19 else line

theorem leadRows_map_take (lines : List Text)
    : leadRows (lines.map (List.take lineWidth)) = leadRows lines := by
  have places : ∀ line ∈ lines,
      (Reading.ofLine (line.take lineWidth)).isHead = (Reading.ofLine line).isHead
      ∧ (Reading.ofLine (line.take lineWidth)).continuation?
        = (Reading.ofLine line).continuation? := by
    intro line _
    obtain ⟨head, row⟩ := (Reading.cutTo_ofLine line).place
    exact ⟨head.symm, row.symm⟩
  exact leadRows_congr (List.forall₂_map_left_iff.mpr (List.forall₂_same.mpr places))

theorem length_headLines (lines : List Text)
    : (headLines lines).length = (segments lines).length := by
  induction lines with
  | nil => rfl
  | cons line rest ih =>
      rw [headLines, List.filter_cons, segments]
      cases Reading.ofLine line with
      | blank | comment | unnumbered _ => exact ih
      | directive _ | numbered _ => exact congrArg (· + 1) ih

/-- The cut takes every segment to one of its own, by list induction: a line starts one before
the cut exactly if it does after, and the rows that a statement collects are not touched.
-/
theorem forall₂_cutTo_segments (lines : List Text)
    : List.Forall₂ (fun whole cut => Entry.CutTo whole.1 whole.2 cut)
        ((headLines lines).zip (segments lines))
        (segments (lines.map (List.take lineWidth))) := by
  induction lines with
  | nil => exact .nil
  | cons line rest ih =>
      have cut := Reading.cutTo_ofLine line
      obtain ⟨reading, read⟩ : ∃ reading, Reading.ofLine line = reading := ⟨_, rfl⟩
      rw [headLines, List.filter_cons, List.map_cons, segments_cons, segments_cons,
        leadRows_map_take, read]
      rw [read] at cut
      generalize Reading.ofLine (line.take lineWidth) = other at cut ⊢
      cases cut with
      | aside left right row =>
          have l := Reading.opened?_of_not_isHead left
          have r := Reading.opened?_of_not_isHead right
          rw [left, l.1, l.2, r.1, r.2]
          exact ih
      | numbered record => exact .cons (.statement read) ih
      | directive cut => exact .cons (.directive read cut) ih

/-- Lines changed one by one, each to one that is alike, by list induction. -/
theorem ofLines_mapIdx {change : Nat → Text → Text}
    (h : ∀ i line, (Reading.ofLine line).Alike (Reading.ofLine (change i line)))
    (lines : List Text)
    : ofLines (lines.mapIdx change) = ofLines lines := by
  have alike : List.Forall₂ (fun x y => (Reading.ofLine x).Alike (Reading.ofLine y)) lines
      (lines.mapIdx change) := by
    induction lines generalizing change with
    | nil => exact .nil
    | cons line rest ih =>
        rw [List.mapIdx_cons]
        exact .cons (h 0 line) (ih fun i => h (i + 1))
  exact (ofLines_congr alike).symm

theorem ofLines_blankChosen (chosen : Nat → Bool) (lines : List Text)
    : ofLines (blankChosen chosen lines) = ofLines lines := by
  refine ofLines_mapIdx (fun i line => ?_) lines
  split
  · rename_i unnumbered
    have kind : (Reading.ofLine line).kind = .unnumbered := unnumbered.2
    cases read : Reading.ofLine line with
    | unnumbered row =>
        rw [← read]
        exact Reading.alike_blankStart read
    | blank | comment | directive _ | numbered _ =>
        rw [read] at kind
        cases kind
  · exact .refl _

/-- A line that is unnumbered before the change is blank after it, and the log tells. -/
structure Vanishes (line changed : Text) : Prop where
  before : LineKind.ofLine line = .unnumbered
  after : LineKind.ofLine changed = .blank
  logged : Builder.log {} [line] ≠ Builder.log {} [changed]

/-- Text past the layout is content to the reader of a line. -/
theorem exists_vanishes_take : ∃ line : Text, Vanishes line (line.take lineWidth) := by
  refine ⟨List.replicate 120 ' ' ++ ['X'], ?_, ?_, ?_⟩
  all_goals decide +kernel

/-- So is a label without a number. -/
theorem exists_vanishes_blankStart : ∃ line : Text, Vanishes line (line.blankStart 19) := by
  refine ⟨List.replicate 8 ' ' ++ ['X'], ?_, ?_, ?_⟩
  all_goals decide +kernel

/-- When all lines are cut at the end of the layout, every line that starts an entry still does:
statements stay as they are and directives keep their kind and as much of their text as fits.
Blanks before the rows of unnumbered lines, whichever are chosen, leave the whole deck as it is.
Either change can turn an unnumbered line into a blank one, which only the log shows.
-/
theorem ofLines_outside_columns
    : (∀ lines,
        (headLines lines).length = (ofLines lines).entries.length
        ∧ List.Forall₂ (fun whole cut => Entry.CutTo whole.1 whole.2 cut)
            ((headLines lines).zip (ofLines lines).entries)
            (ofLines (lines.map (List.take lineWidth))).entries)
      ∧ (∀ chosen lines, ofLines (blankChosen chosen lines) = ofLines lines)
      ∧ (∃ line : Text, Vanishes line (line.take lineWidth))
      ∧ ∃ line : Text, Vanishes line (line.blankStart 19) := by
  refine ⟨?_, ofLines_blankChosen, exists_vanishes_take, exists_vanishes_blankStart⟩
  intro lines
  rw [entries_ofLines, entries_ofLines]
  exact ⟨length_headLines lines, forall₂_cutTo_segments lines⟩

end Deck

end CardListing
