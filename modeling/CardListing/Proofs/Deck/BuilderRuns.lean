import CardListing.Proofs.Deck.BuilderSegments

/-! Runs of a builder, push by push. Each push finds the builder that the lines before it have
left, so what holds of one push from any such state holds of every push of a run.
-/

namespace CardListing

namespace Builder

/-- A row with nothing in it, or with no statement to continue, is dropped with a report. -/
theorem step_of_unattached {builder : Builder} {row : Row}
    (h : builder.current = none ∨ row.isEmpty = true)
    : builder.step (.unnumbered row)
      = ({ builder with lineCount := builder.lineCount + 1 },
        { events := [.unattached (builder.lineCount + 1)] }) := by
  rcases h with closed | empty
  · simp [step, closed]
  · cases hc : builder.current <;> simp [step, hc, empty]

/-- Any other row goes to the open statement, and nothing is reported. -/
theorem step_of_attached {builder : Builder} {s : Statement} {row : Row}
    (opened : builder.current = some s) (content : row.isEmpty = false)
    : builder.step (.unnumbered row)
      = ({ current := some (s.extend [row]), lineCount := builder.lineCount + 1 }, {}) := by
  simp [step, opened, content]

/-- A push reports what reading its line does before what grouping it does. -/
theorem events_push_eq_append (builder : Builder) (line : Text)
    : (builder.push line).2.events
      = (notice? line).toList ++ (builder.step (Reading.ofLine line)).2.events := rfl

/-- What the line at a position brings about is its push to the builder left by the lines
before it, by list induction.
-/
theorem getElem?_emissions (builder : Builder) (lines : List Text) (i : Nat)
    : (builder.emissions lines)[i]?
      = lines[i]?.map fun line => ((builder.run (lines.take i)).push line).2 := by
  induction lines generalizing builder i with
  | nil => rfl
  | cons line rest ih =>
      cases i with
      | zero => rfl
      | succ i =>
          simp only [emissions, run, List.getElem?_cons_succ, List.take_succ_cons]
          exact ih _ i

theorem run_append (builder : Builder) (xs ys : List Text)
    : builder.run (xs ++ ys) = (builder.run xs).run ys := by
  induction xs generalizing builder with
  | nil => rfl
  | cons line rest ih => exact ih _

theorem emissions_append (builder : Builder) (xs ys : List Text)
    : builder.emissions (xs ++ ys)
      = builder.emissions xs ++ (builder.run xs).emissions ys := by
  induction xs generalizing builder with
  | nil => rfl
  | cons line rest ih => simp only [List.cons_append, emissions, run, ih]

theorem run_append_singleton (builder : Builder) (lines : List Text) (line : Text)
    : builder.run (lines ++ [line]) = ((builder.run lines).push line).1 :=
  builder.run_append lines [line]

theorem flatMap_entries_emissions_append_singleton (builder : Builder) (lines : List Text)
    (line : Text)
    : (builder.emissions (lines ++ [line])).flatMap Emission.entries
      = (builder.emissions lines).flatMap Emission.entries
        ++ ((builder.run lines).push line).2.entries := by
  rw [emissions_append, List.flatMap_append]
  exact congrArg _ (List.flatMap_singleton _ _)

/-- Every line counts, whatever it is read as. -/
theorem lineCount_run (builder : Builder) (lines : List Text)
    : (builder.run lines).lineCount = builder.lineCount + lines.length := by
  induction lines generalizing builder with
  | nil => rfl
  | cons line rest ih =>
      have pushed : (builder.push line).1.lineCount = builder.lineCount + 1 :=
        lineCount_step builder (Reading.ofLine line)
      rw [run, ih, pushed, List.length_cons]
      omega

/-- All that the lines report, in order. Ending a listing reports nothing. -/
def log (builder : Builder) (lines : List Text) : List Event :=
  (builder.emissions lines).flatMap Emission.events

theorem log_cons (builder : Builder) (line : Text) (rest : List Text)
    : builder.log (line :: rest)
      = (builder.push line).2.events ++ (builder.push line).1.log rest := by
  rw [log, emissions, List.flatMap_cons]
  rfl

/-- The reports of one sort are those of the first push and those of the run after it. -/
theorem filter_log_cons (sort : Event → Bool) (builder : Builder) (line : Text)
    (rest : List Text)
    : (builder.log (line :: rest)).filter sort
      = (builder.push line).2.events.filter sort
        ++ ((builder.push line).1.log rest).filter sort := by
  rw [log_cons, List.filter_append]

end Builder

end CardListing
