import CardListing.Proofs.Deck.WellFormedEntries

/-! Relisting a deck rebuilds it. Every line of a relisted entry is read as what it was
written for, and the lines of the next entry start with a head, so that every row goes back
to its statement.
-/

namespace CardListing

/-- The first line of a relisted statement is read as the statement's own. -/
theorem Statement.WellFormed.ofLine_relist {s : Statement} (h : s.WellFormed)
    : Reading.ofLine s.primary.relist = .numbered s.primary := by
  have record := h.fits.record_relist
  have card : ReadAsCard s.primary.relist := by
    refine .of_record .lognum ?_ ?_
    · rw [record]
      exact Option.isSome_iff_ne_none.mp h.lognum
    · rw [record]
      exact h.notComment
  have reading := Reading.ofLine_of_lognum card (by rw [record]; exact h.lognum)
  rwa [record] at reading

/-- A relisted row is read as an unnumbered line that offers it: neither of its control
columns holds anything.
-/
theorem Row.WellFormed.ofLine_relist {row : Row} (h : row.WellFormed)
    : Reading.ofLine row.relist = .unnumbered row := by
  rw [Row.relist_eq]
  have record := h.fits.record_relist
  have card : ReadAsCard row.toRecord.relist := by
    obtain ⟨⟨field, text⟩, member, content⟩ := List.all_eq_false.mp h.notEmpty
    obtain ⟨_, _, same⟩ := List.mem_map.mp member
    cases same
    refine .of_record field ?_ ?_
    · rw [record]
      simpa using content
    · rw [record]
      exact nofun
  have reading := Reading.ofLine_of_no_directive card (by rw [record]; rfl) (by rw [record]; rfl)
  rwa [Card.row, record, Row.ofRecord_toRecord] at reading

theorem Directive.Kind.isAlphabetic_control (kind : Directive.Kind)
    : isAlphabetic kind.control = true := by
  cases kind <;> decide

/-- A relisted directive is read as itself: its letter alone stands in a control column. -/
theorem Directive.WellFormed.ofLine_relist {d : Directive} (h : d.WellFormed)
    : Reading.ofLine d.relist = .directive d := by
  have letter : isWhite d.kind.control = false := by cases d.kind <;> rfl
  have contents (field : CardField)
      : (Card.mk d.relist).record.get field
        = Text.content? ((d.relist.drop field.offset).take field.width) := by
    rw [Card.get_record, Card.content?_eq_cut]
  have column1 : (Card.mk d.relist).record.column1 = none := contents .column1
  have lognum : (Card.mk d.relist).record.lognum = none := contents .lognum
  have column8 : (Card.mk d.relist).record.column8 = some [d.kind.control] :=
    (contents .column8).trans (Text.isContent_singleton letter).content?_eq
  have card : ReadAsCard d.relist := by
    refine .of_record .column8 ?_ ?_
    · rw [Record.get, column8]
      exact nofun
    · rw [column1]
      exact nofun
  have marked : (Card.mk d.relist).record.control? = some ⟨d.kind.control, .column8⟩ := by
    rw [Record.control?, column1, column8, controlChar?, controlChar?,
      if_pos d.kind.isAlphabetic_control]
    exact nofun
  have text : d.relist.drop CardField.column8.lastColumn = d.text := rfl
  refine Reading.ofLine_of_directive card lognum marked ?_
  rw [Control.directive?, Directive.Kind.ofControl?_control, Option.map_some, text, h]

-----------------------------------------------------------------------------------------
-- Whole decks
-----------------------------------------------------------------------------------------

namespace Deck

/-- Relisted rows go to the statement before them and are no entries of their own. -/
theorem leadRows_relist_append {rows : List Row} (h : ∀ row ∈ rows, row.WellFormed)
    (lines : List Text)
    : leadRows (rows.map Row.relist ++ lines) = rows ++ leadRows lines := by
  induction rows with
  | nil => rfl
  | cons row rest ih =>
      have wellFormed := h row (by simp)
      rw [List.map_cons, List.cons_append, leadRows_cons, wellFormed.ofLine_relist,
        ih fun r member => h r (by simp [member])]
      simp [Reading.isHead, Reading.continuation?, wellFormed.notEmpty]

theorem segments_relist_append {rows : List Row} (h : ∀ row ∈ rows, row.WellFormed)
    (lines : List Text)
    : segments (rows.map Row.relist ++ lines) = segments lines := by
  induction rows with
  | nil => rfl
  | cons row rest ih =>
      rw [List.map_cons, List.cons_append, segments_cons, (h row (by simp)).ofLine_relist,
        ih fun r member => h r (by simp [member])]
      rfl

/-- The lines of relisted entries start with a head, so no row leads them. -/
theorem leadRows_relist {entries : List Entry} (h : ∀ entry ∈ entries, entry.WellFormed)
    : leadRows (entries.flatMap Entry.relist) = [] := by
  cases entries with
  | nil => rfl
  | cons entry rest =>
      have wellFormed := h entry (by simp)
      cases entry with
      | statement s =>
          rw [List.flatMap_cons, Entry.relist, List.cons_append, leadRows_cons,
            Statement.WellFormed.ofLine_relist wellFormed]
          rfl
      | directive d =>
          rw [List.flatMap_cons, Entry.relist, List.cons_append, leadRows_cons,
            Directive.WellFormed.ofLine_relist wellFormed]
          rfl

/-- The segments of relisted entries are the entries, by list induction. -/
theorem segments_relist {entries : List Entry} (h : ∀ entry ∈ entries, entry.WellFormed)
    : segments (entries.flatMap Entry.relist) = entries := by
  induction entries with
  | nil => rfl
  | cons entry rest ih =>
      have wellFormed := h entry (by simp)
      have later : ∀ entry ∈ rest, entry.WellFormed := fun e member => h e (by simp [member])
      cases entry with
      | statement s =>
          have rows : ∀ row ∈ s.continuations, row.WellFormed :=
            Statement.WellFormed.continuations wellFormed
          rw [List.flatMap_cons, Entry.relist, List.cons_append, segments_cons,
            Statement.WellFormed.ofLine_relist wellFormed, leadRows_relist_append rows,
            segments_relist_append rows, leadRows_relist later, ih later]
          simp [Reading.directive?, Reading.opened?, Statement.extend]
      | directive d =>
          rw [List.flatMap_cons, Entry.relist, List.cons_append, segments_cons,
            Directive.WellFormed.ofLine_relist wellFormed, List.nil_append, ih later]
          rfl

/-- The listing of a deck that was made of any lines is a listing of the same deck. -/
theorem ofLines_relist (lines : List Text) : ofLines (ofLines lines).relist = ofLines lines := by
  have same : (ofLines (ofLines lines).relist).entries = (ofLines lines).entries := by
    rw [entries_ofLines, relist]
    exact segments_relist fun _ member => wellFormed_of_mem_entries member
  exact congrArg Deck.mk same

end Deck

end CardListing
