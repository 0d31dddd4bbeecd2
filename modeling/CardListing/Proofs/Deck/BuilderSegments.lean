import CardListing.Deck.Segmentation

/-! A builder in any state drains into the segments of the remaining lines. The statement
that is open beforehand takes the rows before the first head and comes first.
-/

namespace CardListing

namespace Reading

/-- The statement that a numbered line opens. -/
def opened? : Reading → Option Statement
  | numbered record => some ⟨record, []⟩
  | _ => none

/-- The directive that a line is. -/
def directive? : Reading → Option Directive
  | directive d => some d
  | _ => none

/-- A line without an entry of its own opens nothing and announces nothing. -/
theorem opened?_of_not_isHead {reading : Reading} (h : reading.isHead = false)
    : reading.opened? = none ∧ reading.directive? = none := by
  cases reading <;> first | exact ⟨rfl, rfl⟩ | cases h

end Reading

namespace Builder

@[simp] theorem lineCount_step (builder : Builder) (reading : Reading)
    : (builder.step reading).1.lineCount = builder.lineCount + 1 := by
  cases reading <;> simp only [step]
  case unnumbered row => split <;> rfl

/-- A head replaces the open statement; any other line can only extend it by its row. -/
theorem current_step (builder : Builder) (reading : Reading)
    : (builder.step reading).1.current
      = if reading.isHead then
          reading.opened?
        else
          builder.current.map (·.extend reading.continuation?.toList) := by
  cases reading with
  | blank | comment =>
      cases hc : builder.current <;> simp [step, Reading.isHead, Reading.continuation?, hc]
  | directive d => rfl
  | numbered record => rfl
  | unnumbered row =>
      cases hc : builder.current <;> cases he : row.isEmpty <;>
        simp [step, Reading.isHead, Reading.continuation?, hc, he]

/-- A head completes the open statement and then itself, if it is a directive. No other
line completes anything. -/
theorem entries_step (builder : Builder) (reading : Reading)
    : (builder.step reading).2.entries
      = if reading.isHead then
          builder.finish.toList ++ (reading.directive?.map Entry.directive).toList
        else
          [] := by
  cases reading with
  | blank | comment => rfl
  | directive d => rfl
  | numbered record =>
      simp [step, Emission.entries, Completion.entries, Reading.isHead, Reading.directive?,
        finish]
  | unnumbered row =>
      simp only [step]
      split <;> rfl

/-- A line that completes a statement and nothing after it has opened another one. -/
theorem isOpen_step_of_getLast? {builder : Builder} {reading : Reading} {s : Statement}
    (h : (builder.step reading).2.entries.getLast? = some (.statement s))
    : (builder.step reading).1.isOpen = true := by
  rw [isOpen, current_step]
  rw [entries_step] at h
  cases reading with
  | numbered record => rfl
  | directive d => simp [Reading.isHead, Reading.directive?] at h
  | blank | comment | unnumbered _ => simp [Reading.isHead] at h

@[simp] theorem current_push (builder : Builder) (line : Text)
    : (builder.push line).1.current = (builder.step (Reading.ofLine line)).1.current := rfl

@[simp] theorem entries_push (builder : Builder) (line : Text)
    : (builder.push line).2.entries = (builder.step (Reading.ofLine line)).2.entries := rfl

theorem drain_cons (builder : Builder) (line : Text) (rest : List Text)
    : builder.drain (line :: rest)
      = (builder.push line).2.entries ++ (builder.push line).1.drain rest := rfl

end Builder

namespace Deck

@[simp] theorem leadRows_nil : leadRows [] = [] := rfl

@[simp] theorem segments_nil : segments [] = [] := rfl

/-- The rows before the first head, one line at a time. -/
theorem leadRows_cons (line : Text) (rest : List Text)
    : leadRows (line :: rest)
      = if (Reading.ofLine line).isHead then
          []
        else
          (Reading.ofLine line).continuation?.toList ++ leadRows rest := by
  rw [leadRows, List.map_cons, List.takeWhile_cons]
  by_cases hh : (Reading.ofLine line).isHead = true
  · simp [hh]
  · cases hc : (Reading.ofLine line).continuation? <;> simp [hh, hc, leadRows]

/-- The segments from a line on: its own entry, if it has one, and those of the rest. -/
theorem segments_cons (line : Text) (rest : List Text)
    : segments (line :: rest)
      = ((Reading.ofLine line).directive?.map Entry.directive).toList
        ++ ((Reading.ofLine line).opened?.map
            fun s => .statement (s.extend (leadRows rest))).toList
        ++ segments rest := by
  rw [segments]
  cases hr : Reading.ofLine line <;>
    simp [Reading.directive?, Reading.opened?, Statement.extend]

end Deck

namespace Builder

/-- Draining completes the open statement with the rows before the first head and goes on
with the segments, by list induction over the state that each line leaves. -/
theorem drain_eq_segments (builder : Builder) (lines : List Text)
    : builder.drain lines
      = (builder.current.map fun s => .statement (s.extend (Deck.leadRows lines))).toList
        ++ Deck.segments lines := by
  induction lines generalizing builder with
  | nil => simp [drain, finish]
  | cons line rest ih =>
      rw [drain_cons, ih, entries_push, current_push, entries_step, current_step,
        Deck.leadRows_cons, Deck.segments_cons]
      by_cases hh : (Reading.ofLine line).isHead = true
      · -- The head ends the open statement as it stands, so it takes no row from the rest.
        simp [hh, finish]
      · have hnone := Reading.opened?_of_not_isHead (by simpa using hh)
        simp [hh, hnone.1, hnone.2, Function.comp_def]

end Builder

/-- The entries of a deck are the segments of its lines. -/
theorem Deck.entries_ofLines (lines : List Text)
    : (Deck.ofLines lines).entries = Deck.segments lines := by
  rw [Deck.ofLines, Builder.drain_eq_segments]
  rfl

end CardListing
