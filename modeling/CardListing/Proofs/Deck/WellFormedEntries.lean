import CardListing.Proofs.CardContents
import CardListing.Proofs.Deck.BuilderSegments
import CardListing.Proofs.LineReading

/-! Well-formedness of what a listing can produce. Reading a line yields only statements,
rows and directives that are well formed, every push keeps the open statement so, and thus
every entry of every deck is.
-/

namespace CardListing

/-- The row has something in it, and its contents fit their columns. -/
structure Row.WellFormed (row : Row) : Prop where
  fits : row.toRecord.Fits
  notEmpty : row.isEmpty = false

/-- The statement has a line number and is no comment, and its contents fit their columns. -/
structure Statement.WellFormed (s : Statement) : Prop where
  lognum : s.primary.lognum.isSome = true
  notComment : s.primary.column1 ≠ some ['#']
  fits : s.primary.Fits
  continuations : ∀ row ∈ s.continuations, row.WellFormed

/-- The directive's text has no white space at its end. -/
def Directive.WellFormed (d : Directive) : Prop := Text.trimEnd d.text = d.text

def Entry.WellFormed : Entry → Prop
  | statement s => s.WellFormed
  | directive d => d.WellFormed

/-- Whatever a line contributes to the deck is well formed. -/
structure Reading.WellFormed (reading : Reading) : Prop where
  opened : ∀ s, reading.opened? = some s → s.WellFormed
  directive : ∀ d, reading.directive? = some d → d.WellFormed
  continuation : ∀ row, reading.continuation? = some row → row.WellFormed

-----------------------------------------------------------------------------------------
-- Single lines
-----------------------------------------------------------------------------------------

theorem Record.Fits.row {record : Record} (h : record.Fits)
    : (Row.ofRecord record).toRecord.Fits := by
  intro field text found
  cases field with
  | column1 | lognum | column8 | label => cases found
  | operation => exact h .operation text found
  | operand1 => exact h .operand1 text found
  | operand2 => exact h .operand2 text found
  | operand3 => exact h .operand3 text found
  | misc => exact h .misc text found
  | remarks => exact h .remarks text found

/-- Every line is read as something well formed, by the conditions of its reading. -/
theorem Reading.wellFormed_ofLine (line : Text) : (ofLine line).WellFormed := by
  have reads := reads_ofLine line
  generalize ofLine line = reading at reads
  cases reads with
  | blank _ | comment _ _ => constructor <;> intro _ found <;> cases found
  | numbered card lognum =>
      constructor
      · intro s opened
        cases opened
        exact ⟨lognum, card.column1_ne_mark, Card.fits_record _, by simp⟩
      · intro d announced
        cases announced
      · intro row offered
        cases offered
  | directive _ _ _ found =>
      constructor
      · intro s opened
        cases opened
      · intro d announced
        cases announced
        obtain ⟨kind, _, rfl⟩ := Option.map_eq_some_iff.mp found
        exact Text.trimEnd_trimEnd _
      · intro row offered
        cases offered
  | unnumbered _ _ _ =>
      constructor
      · intro s opened
        cases opened
      · intro d announced
        cases announced
      · intro row offered
        cases he : (Card.mk line).row.isEmpty <;> simp only [continuation?, he] at offered
        · cases offered
          exact ⟨(Card.fits_record _).row, he⟩
        · cases offered

-----------------------------------------------------------------------------------------
-- Whole listings
-----------------------------------------------------------------------------------------

theorem Statement.WellFormed.extend {s : Statement} (h : s.WellFormed) {rows : List Row}
    (more : ∀ row ∈ rows, row.WellFormed)
    : (s.extend rows).WellFormed := by
  refine ⟨h.lognum, h.notComment, h.fits, ?_⟩
  intro row member
  rcases List.mem_append.mp member with before | new
  · exact h.continuations row before
  · exact more row new

namespace Builder

/-- The statement that may still be continued, if there is one, is well formed. -/
def WellFormed (builder : Builder) : Prop := ∀ s, builder.current = some s → s.WellFormed

theorem wellFormed_fresh : WellFormed {} := nofun

variable {builder : Builder}

/-- A push keeps the builder well formed: a head replaces the open statement and any other
line adds at most a row that is well formed.
-/
theorem WellFormed.push (h : builder.WellFormed) (line : Text)
    : (builder.push line).1.WellFormed := by
  have reading := Reading.wellFormed_ofLine line
  intro s current
  rw [current_push, current_step] at current
  split at current
  · exact reading.opened s current
  · obtain ⟨before, found, rfl⟩ := Option.map_eq_some_iff.mp current
    refine (h before found).extend ?_
    intro row member
    exact reading.continuation row (Option.mem_toList.mp member)

theorem WellFormed.of_mem_finish (h : builder.WellFormed) {entry : Entry}
    (member : entry ∈ builder.finish.toList)
    : entry.WellFormed := by
  obtain ⟨s, found, rfl⟩ := Option.map_eq_some_iff.mp (Option.mem_toList.mp member)
  exact h s found

/-- What a push completes is the open statement or a directive as it was read. -/
theorem WellFormed.of_mem_push (h : builder.WellFormed) {line : Text} {entry : Entry}
    (member : entry ∈ (builder.push line).2.entries)
    : entry.WellFormed := by
  rw [entries_push, entries_step] at member
  split at member
  · rcases List.mem_append.mp member with closed | announced
    · exact h.of_mem_finish closed
    · obtain ⟨d, found, rfl⟩ := Option.map_eq_some_iff.mp (Option.mem_toList.mp announced)
      exact (Reading.wellFormed_ofLine line).directive d found
  · cases member

/-- Every builder that lines lead to is well formed, by list induction. -/
theorem WellFormed.run (h : builder.WellFormed) (lines : List Text)
    : (builder.run lines).WellFormed := by
  induction lines generalizing builder with
  | nil => exact h
  | cons line rest ih => exact ih (h.push line)

/-- Every entry that lines and their end complete is well formed, by list induction. -/
theorem WellFormed.of_mem_drain (h : builder.WellFormed) {lines : List Text} {entry : Entry}
    (member : entry ∈ builder.drain lines)
    : entry.WellFormed := by
  induction lines generalizing builder with
  | nil => exact h.of_mem_finish member
  | cons line rest ih =>
      rcases List.mem_append.mp member with now | later
      · exact h.of_mem_push now
      · exact ih (h.push line) later

end Builder

theorem Deck.wellFormed_of_mem_entries {lines : List Text} {entry : Entry}
    (h : entry ∈ (ofLines lines).entries)
    : entry.WellFormed :=
  Builder.wellFormed_fresh.of_mem_drain h

end CardListing
