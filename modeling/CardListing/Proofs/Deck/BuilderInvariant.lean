import CardListing.Proofs.Deck.BuilderRuns
import CardListing.Proofs.Deck.EntryPositions
import CardListing.Proofs.Deck.WellFormedEntries

/-! What holds after any lines have been pushed. Statements are numbered and are no comments,
texts fit their columns without white space around them, a statement is open exactly if the
last head was a numbered line, and a push completes the open statement exactly at a head.
-/

namespace CardListing

/-- The text can be the content of a field of the width: it is not empty, has no white space
at either end and is not too long.
-/
structure Text.StandsIn (width : Nat) (text : Text) : Prop where
  notEmpty : text ≠ []
  start : ∀ c, text.head? = some c → isWhite c = false
  stop : ∀ c, text.getLast? = some c → isWhite c = false
  notLonger : text.length ≤ width

/-- What is known of every statement, whatever it was made of. The texts are those of its
numbered line and of its rows.
-/
structure Statement.Sound (s : Statement) : Prop where
  numbered : s.primary.lognum.isSome = true
  lognum : s.lognum ≠ []
  notComment : s.primary.column1 ≠ some ['#']
  texts
    : ∀ record ∈ s.primary :: s.continuations.map Row.toRecord,
        ∀ field text, record.get field = some text → text.StandsIn field.width
  rows : ∀ row ∈ s.continuations, row.isEmpty = false

/-- What is known of every entry. A directive's text has no white space at its end. -/
def Entry.Sound : Entry → Prop
  | statement s => s.Sound
  | directive d => ∀ c, d.text.getLast? = some c → isWhite c = false

theorem Record.Fits.standsIn {record : Record} (h : record.Fits) {field : CardField}
    {text : Text} (found : record.get field = some text)
    : text.StandsIn field.width := by
  obtain ⟨content, fits⟩ := h field text found
  exact ⟨content.notEmpty, fun _ => content.start, fun _ => content.stop, fits⟩

theorem Statement.WellFormed.sound {s : Statement} (h : s.WellFormed) : s.Sound := by
  have texts : ∀ record ∈ s.primary :: s.continuations.map Row.toRecord,
      ∀ field text, record.get field = some text → text.StandsIn field.width := by
    intro record member field text found
    rcases List.mem_cons.mp member with rfl | continued
    · exact h.fits.standsIn found
    · obtain ⟨row, among, rfl⟩ := List.mem_map.mp continued
      exact (h.continuations row among).fits.standsIn found
  refine ⟨h.lognum, ?_, h.notComment, texts, fun row among => (h.continuations row among).notEmpty⟩
  obtain ⟨text, found⟩ := Option.isSome_iff_exists.mp h.lognum
  have stands : text.StandsIn CardField.lognum.width := h.fits.standsIn found
  rw [Statement.lognum, found]
  exact stands.notEmpty

theorem Entry.WellFormed.sound {entry : Entry} (h : entry.WellFormed) : entry.Sound := by
  cases entry with
  | statement s => exact Statement.WellFormed.sound h
  | directive d =>
      have trimmed : Text.trimEnd d.text = d.text := h
      intro c last
      rw [← trimmed] at last
      exact Text.isWhite_of_getLast?_trimEnd last

namespace Builder

-----------------------------------------------------------------------------------------
-- Single pushes
-----------------------------------------------------------------------------------------

/-- A head decides by itself whether a statement is open after it; any other line leaves that
as it was.
-/
theorem isOpen_push (builder : Builder) (line : Text)
    : (builder.push line).1.isOpen
      = if (LineKind.ofLine line).isHead then
          decide (LineKind.ofLine line = .numbered)
        else
          builder.isOpen := by
  rw [isOpen, current_push, current_step, Deck.isHead_ofLine, LineKind.ofLine]
  cases Reading.ofLine line <;>
    simp [Reading.isHead, Reading.opened?, Reading.kind, isOpen]

/-- A push completes the open statement, if there is one, exactly at a head, and after it the
directive that the head is.
-/
theorem exists_entries_push_eq (builder : Builder) (line : Text)
    : ∃ (closed : Option Statement) (directive : Option Directive),
        (builder.push line).2.entries
          = closed.toList.map .statement ++ directive.toList.map .directive
        ∧ (closed.isSome = true
          ↔ builder.isOpen = true ∧ (LineKind.ofLine line).isHead = true)
        ∧ ∀ kind,
          LineKind.ofLine line = .directive kind ↔ ∃ d, directive = some d ∧ d.kind = kind := by
  rw [entries_push, entries_step, Deck.isHead_ofLine, LineKind.ofLine]
  refine ⟨if (Reading.ofLine line).isHead then builder.current else none,
    (Reading.ofLine line).directive?, ?_, ?_, ?_⟩
  · cases Reading.ofLine line <;> cases hc : builder.current <;>
      simp [Reading.isHead, Reading.directive?, finish, hc]
  · by_cases hh : (Reading.ofLine line).isHead = true <;> simp [hh, isOpen]
  · intro kind
    cases Reading.ofLine line <;> simp [Reading.kind, Reading.directive?]

-----------------------------------------------------------------------------------------
-- Any number of pushes
-----------------------------------------------------------------------------------------

/-- The kinds of the heads among the lines, in order. -/
def headKinds (lines : List Text) : List LineKind :=
  (lines.map LineKind.ofLine).filter LineKind.isHead

/-- The last head decides whether a statement is open; without any it is as it was before. By
list induction.
-/
theorem isOpen_run (builder : Builder) (lines : List Text)
    : (builder.run lines).isOpen
      = ((headKinds lines).getLast?.map fun kind => decide (kind = .numbered)).getD
        builder.isOpen := by
  induction lines generalizing builder with
  | nil => rfl
  | cons line rest ih =>
      rw [run, ih, isOpen_push]
      by_cases hh : (LineKind.ofLine line).isHead = true
      · have kinds : headKinds (line :: rest) = LineKind.ofLine line :: headKinds rest := by
          rw [headKinds, List.map_cons, List.filter_cons_of_pos hh, headKinds]
        rw [kinds, List.getLast?_cons, if_pos hh]
        cases (headKinds rest).getLast? <;> rfl
      · have kinds : headKinds (line :: rest) = headKinds rest := by
          rw [headKinds, List.map_cons, List.filter_cons_of_neg hh, headKinds]
        rw [kinds, if_neg hh]

/-- After any lines, the open statement and every entry completed so far or by the end are
sound, a statement is open exactly if the last head was numbered, and the push of each line
has completed the open statement exactly if that line is a head, and then the directive, if
it is one.
-/
theorem reachable_sound (lines : List Text)
    : (∀ s, (run {} lines).current = some s → s.Sound)
      ∧ (∀ entry ∈ drain {} lines, entry.Sound)
      ∧ ((run {} lines).isOpen = true ↔ (headKinds lines).getLast? = some .numbered)
      ∧ ∀ i line,
        lines[i]? = some line
        → ∃ emission closed directive,
          (emissions {} lines)[i]? = some emission
          ∧ emission.entries
            = (closed : Option Statement).toList.map .statement
              ++ (directive : Option Directive).toList.map .directive
          ∧ (closed.isSome = true
            ↔ (run {} (lines.take i)).isOpen = true ∧ (LineKind.ofLine line).isHead = true)
          ∧ ∀ kind,
            LineKind.ofLine line = .directive kind
            ↔ ∃ d, directive = some d ∧ d.kind = kind := by
  refine ⟨?_, ?_, ?_, ?_⟩
  · intro s current
    exact (wellFormed_fresh.run lines s current).sound
  · intro entry member
    exact (wellFormed_fresh.of_mem_drain member).sound
  · rw [isOpen_run]
    cases (headKinds lines).getLast? with
    | none => exact ⟨nofun, nofun⟩
    | some kind => simp
  · intro i line found
    obtain ⟨closed, directive, entries, statement, kinds⟩ :=
      exists_entries_push_eq (run {} (lines.take i)) line
    refine ⟨_, closed, directive, ?_, entries, statement, kinds⟩
    rw [getElem?_emissions, found]
    rfl

end Builder

end CardListing
