import CardListing.Proofs.CardLayout
import CardListing.Proofs.Deck.BuilderRuns
import CardListing.Proofs.LineReading

/-! The kind of a line told by its columns. A line is sorted by the characters that stand in
columns 1 to 8, with blanks past its end, and nothing that was cut, trimmed or padded on the
way has a say. The report of a stray control letter has its condition on the same columns.
-/

namespace CardListing

-----------------------------------------------------------------------------------------
-- Fields by their columns
-----------------------------------------------------------------------------------------

/-- No white space is alphabetic: the ranges of the two tables are apart. -/
theorem isAlphabetic_of_isWhite {c : Char} (h : isWhite c = true) : isAlphabetic c = false :=
  CharRanges.contains_eq_false_of_areApart (by decide +kernel) h

theorem isAlphabetic_blank : isAlphabetic ' ' = false := isAlphabetic_of_isWhite rfl

namespace Card

/-- A field has no content exactly if all of its columns are blank. -/
theorem content?_eq_none_iff (card : Card) (field : CardField)
    : card.content? field = none
      ↔ ∀ number,
          field.firstColumn ≤ number
          → number ≤ field.lastColumn
          → isWhite (card.column number) = true := by
  rw [content?_eq_raw, Text.content?_eq_none_iff, raw_eq_map_columns, Text.isBlank,
    List.all_eq_true, List.forall_mem_map]
  constructor
  · intro white number first last
    exact white number (CardField.mem_columns.mpr ⟨first, last⟩)
  · intro white number member
    obtain ⟨first, last⟩ := CardField.mem_columns.mp member
    exact white number first last

/-- The control character of a field of one column is the character there, if alphabetic:
trimming the column loses no letter.
-/
theorem controlChar?_content? (card : Card) (field : CardField) (single : field.width = 1)
    : controlChar? (card.content? field)
      = if isAlphabetic (card.column field.firstColumn) then
          some (card.column field.firstColumn)
        else
          none := by
  have raw : card.raw field = [card.column field.firstColumn] := by
    rw [raw_eq_map_column, single]
    rfl
  rw [content?_eq_raw, raw]
  cases white : isWhite (card.column field.firstColumn) with
  | false => rw [(Text.isContent_singleton white).content?_eq, controlChar?]
  | true =>
      rw [isAlphabetic_of_isWhite white, Text.content?_eq, Text.isBlank_cons, white]
      rfl

/-- The control character stands in its column, and the other of the two control columns
holds no letter.
-/
inductive LoneLetter (card : Card) : Control → Prop
  | column1 (letter : isAlphabetic (card.column 1) = true)
    (other : isAlphabetic (card.column 8) = false)
    : LoneLetter card ⟨card.column 1, .column1⟩
  | column8 (other : isAlphabetic (card.column 1) = false)
    (letter : isAlphabetic (card.column 8) = true)
    : LoneLetter card ⟨card.column 8, .column8⟩

theorem control?_record_eq_some_iff (card : Card) (control : Control)
    : card.record.control? = some control ↔ card.LoneLetter control := by
  have first : controlChar? card.record.column1
      = if isAlphabetic (card.column 1) then some (card.column 1) else none :=
    card.controlChar?_content? .column1 rfl
  have eighth : controlChar? card.record.column8
      = if isAlphabetic (card.column 8) then some (card.column 8) else none :=
    card.controlChar?_content? .column8 rfl
  rw [Record.control?, first, eighth]
  constructor
  · intro found
    cases one : isAlphabetic (card.column 1) <;> cases eight : isAlphabetic (card.column 8) <;>
      simp only [one, eight, Bool.false_eq_true, if_true, if_false] at found <;> cases found
    · exact .column8 one eight
    · exact .column1 one eight
  · rintro (⟨letter, other⟩ | ⟨other, letter⟩) <;> simp [letter, other]

/-- Columns 2 to 7 are blank. -/
def Unnumbered (card : Card) : Prop :=
  ∀ number, 2 ≤ number → number ≤ 7 → isWhite (card.column number) = true

theorem lognum_record_eq_none_iff (card : Card)
    : card.record.lognum = none ↔ card.Unnumbered :=
  card.content?_eq_none_iff .lognum

theorem isSome_lognum_record_iff (card : Card)
    : card.record.lognum.isSome = true
      ↔ ∃ number, 2 ≤ number ∧ number ≤ 7 ∧ isWhite (card.column number) = false := by
  rw [Option.isSome_iff_ne_none, ne_eq, lognum_record_eq_none_iff, Unnumbered]
  simp

end Card

-----------------------------------------------------------------------------------------
-- Kinds of lines
-----------------------------------------------------------------------------------------

namespace LineKind

/-- What the columns of a line make of it. -/
inductive Spelled (line : Text) : LineKind → Prop
  | blank (white : ∀ c ∈ line, isWhite c = true) : Spelled line .blank
  | comment (content : ∃ c ∈ line, isWhite c = false) (mark : line.head? = some '#')
    : Spelled line .comment
  | numbered (card : ReadAsCard line)
    (number
      : ∃ number,
          2 ≤ number ∧ number ≤ 7 ∧ isWhite ((Card.mk line).column number) = false)
    : Spelled line .numbered
  | directive {control} {kind : Directive.Kind} (card : ReadAsCard line)
    (unnumbered : (Card.mk line).Unnumbered) (lone : (Card.mk line).LoneLetter control)
    (announced : control.char = kind.control)
    : Spelled line (.directive kind)
  | unnumbered (card : ReadAsCard line) (unnumbered : (Card.mk line).Unnumbered)
    (plain
      : ∀ control,
          (Card.mk line).LoneLetter control
          → ∀ kind : Directive.Kind, control.char ≠ kind.control)
    : Spelled line .unnumbered

/-- Every line is of the kind that its columns spell, by the conditions of its reading. -/
theorem spelled_ofLine (line : Text) : Spelled line (ofLine line) := by
  rw [ofLine]
  have reads := Reading.reads_ofLine line
  generalize Reading.ofLine line = reading at reads
  cases reads with
  | blank blank => exact .blank (List.all_eq_true.mp blank)
  | comment notBlank mark =>
      refine .comment ?_ mark
      simpa [Text.isBlank] using notBlank
  | numbered card lognum => exact .numbered card ((Card.isSome_lognum_record_iff _).mp lognum)
  | directive card lognum marked found =>
      exact .directive card ((Card.lognum_record_eq_none_iff _).mp lognum)
        ((Card.control?_record_eq_some_iff _ _).mp marked)
        ((Control.directive?_eq_some_iff _ _ _).mp found).1
  | unnumbered card lognum plain =>
      refine .unnumbered card ((Card.lognum_record_eq_none_iff _).mp lognum) ?_
      intro control lone
      have marked := (Card.control?_record_eq_some_iff _ _).mpr lone
      have silent := Option.bind_eq_none_iff.mp plain control marked
      exact (Control.directive?_eq_none_iff _ _).mp silent

/-- No other kind is spelled by the columns, by what each kind asks of them. -/
theorem Spelled.ofLine_eq {line : Text} {kind : LineKind} (h : Spelled line kind)
    : ofLine line = kind := by
  rw [ofLine]
  cases h with
  | blank white =>
      rw [Reading.ofLine_of_isBlank (List.all_eq_true.mpr white)]
      rfl
  | comment content mark =>
      have notBlank : line.isBlank = false := by simpa [Text.isBlank] using content
      rw [Reading.ofLine_of_comment notBlank mark]
      rfl
  | numbered card number =>
      rw [Reading.ofLine_of_lognum card ((Card.isSome_lognum_record_iff _).mpr number)]
      rfl
  | @directive control kind card unnumbered lone announced =>
      have lognum := (Card.lognum_record_eq_none_iff _).mpr unnumbered
      have marked := (Card.control?_record_eq_some_iff _ _).mpr lone
      have found := (control.directive?_eq_some_iff line ⟨kind, _⟩).mpr ⟨announced, rfl⟩
      rw [Reading.ofLine_of_directive card lognum marked found]
      rfl
  | unnumbered card unnumbered plain =>
      have lognum := (Card.lognum_record_eq_none_iff _).mpr unnumbered
      have silent
          : ((Card.mk line).record.control?.bind fun mark => mark.directive? line) = none := by
        refine Option.bind_eq_none_iff.mpr fun control marked => ?_
        have lone := (Card.control?_record_eq_some_iff _ _).mp marked
        exact (control.directive?_eq_none_iff line).mpr (plain control lone)
      rw [Reading.ofLine_of_no_directive card lognum silent]
      rfl

theorem ofLine_eq_iff_spelled (line : Text) (kind : LineKind)
    : ofLine line = kind ↔ Spelled line kind :=
  ⟨fun same => same ▸ spelled_ofLine line, Spelled.ofLine_eq⟩

end LineKind

-----------------------------------------------------------------------------------------
-- Stray letters
-----------------------------------------------------------------------------------------

/-- A letter stands alone in a control column of a line without a number and is none of those
that announce a directive.
-/
structure StrayLetter (line : Text) (control : Control) : Prop where
  card : ReadAsCard line
  unnumbered : (Card.mk line).Unnumbered
  lone : (Card.mk line).LoneLetter control
  unknown : control.char ∉ ['L', 'R', 'P']

theorem Directive.Kind.not_mem_iff_forall_ne_control (c : Char)
    : c ∉ ['L', 'R', 'P'] ↔ ∀ kind : Directive.Kind, c ≠ kind.control := by
  constructor
  · rintro unknown kind rfl
    cases kind <;> simp [control] at unknown
  · intro other
    simp only [List.mem_cons, List.not_mem_nil, or_false, not_or]
    exact ⟨other .title, other .remark, other .pageHeader⟩

/-- Reading a line reports its stray letter, if it has one, and nothing else. -/
theorem notice?_eq_some_iff (line : Text) (event : Event)
    : notice? line = some event
      ↔ ∃ control, event = .unrecognisedControl control ∧ StrayLetter line control := by
  constructor
  · intro reported
    unfold notice? at reported
    split at reported
    · rename_i kind
      obtain ⟨control, marked, rfl⟩ := Option.map_eq_some_iff.mp reported
      have lone := (Card.control?_record_eq_some_iff _ _).mp marked
      cases (LineKind.ofLine_eq_iff_spelled line .unnumbered).mp kind with
      | unnumbered card unnumbered plain =>
          have unknown := (Directive.Kind.not_mem_iff_forall_ne_control _).mpr (plain control lone)
          exact ⟨control, rfl, card, unnumbered, lone, unknown⟩
    · cases reported
  · rintro ⟨control, rfl, card, unnumbered, lone, unknown⟩
    have marked := (Card.control?_record_eq_some_iff _ _).mpr lone
    have plain
        : ∀ other,
            (Card.mk line).LoneLetter other
            → ∀ kind : Directive.Kind, other.char ≠ kind.control := by
      intro other alone
      have same := ((Card.control?_record_eq_some_iff _ _).mpr alone).symm.trans marked
      cases same
      exact (Directive.Kind.not_mem_iff_forall_ne_control _).mp unknown
    rw [notice?, (LineKind.Spelled.unnumbered card unnumbered plain).ofLine_eq, marked]
    rfl

-----------------------------------------------------------------------------------------
-- Pushed lines
-----------------------------------------------------------------------------------------

namespace Builder

/-- What a push makes of a line of a kind, whatever has been pushed before. Only whether a
statement is open counts, and only for the row of an unnumbered line.
-/
inductive Takes (builder : Builder) (line : Text) : LineKind → Builder × Emission → Prop
  | blank : Takes builder line .blank ({ builder with lineCount := builder.lineCount + 1 }, {})
  | comment
    : Takes builder line .comment ({ builder with lineCount := builder.lineCount + 1 }, {})
  | directive {d} (read : Reading.ofLine line = .directive d)
    : Takes builder line (.directive d.kind)
        ({ lineCount := builder.lineCount + 1 },
          { closed := builder.current, directive := some d,
            events := [.directive (builder.lineCount + 1) d.kind] })
  | numbered
    : Takes builder line .numbered
        ({ current := some ⟨(Card.mk line).record, []⟩, lineCount := builder.lineCount + 1 },
          { closed := builder.current })
  | continued {s} (opened : builder.current = some s)
    (content : (Card.mk line).row.isEmpty = false)
    : Takes builder line .unnumbered
        ({ current := some (s.extend [(Card.mk line).row]),
           lineCount := builder.lineCount + 1 },
          { events := (notice? line).toList })
  | dropped (unattached : builder.current = none ∨ (Card.mk line).row.isEmpty = true)
    : Takes builder line .unnumbered
        ({ builder with lineCount := builder.lineCount + 1 },
          { events := (notice? line).toList ++ [.unattached (builder.lineCount + 1)] })

/-- Every push takes its line as what it is read alone, by the readings of a line. -/
theorem takes_push (builder : Builder) (line : Text)
    : builder.Takes line (LineKind.ofLine line) (builder.push line) := by
  have silent : LineKind.ofLine line ≠ .unnumbered → notice? line = none := by
    intro other
    unfold notice?
    split
    · contradiction
    · rfl
  have reads := Reading.reads_ofLine line
  obtain ⟨reading, read⟩ : ∃ reading, Reading.ofLine line = reading := ⟨_, rfl⟩
  rw [LineKind.ofLine, read] at silent ⊢
  rw [push, read]
  rw [read] at reads
  cases reads with
  | blank _ =>
      rw [silent nofun]
      exact .blank
  | comment _ _ =>
      rw [silent nofun]
      exact .comment
  | numbered _ _ =>
      rw [silent nofun]
      exact .numbered
  | directive _ _ _ _ =>
      rw [silent nofun]
      exact .directive read
  | unnumbered _ _ _ =>
      by_cases h : builder.current = none ∨ (Card.mk line).row.isEmpty = true
      · rw [step_of_unattached h]
        exact .dropped h
      · obtain ⟨opened, content⟩ := not_or.mp h
        obtain ⟨s, hs⟩ := Option.ne_none_iff_exists'.mp opened
        have content : (Card.mk line).row.isEmpty = false := by simpa using content
        rw [step_of_attached hs content]
        simp only [List.append_nil]
        exact .continued hs content

end Builder

/-- The columns of a line decide its kind, and what reading it reports: a stray letter with
its column and nothing else. Every builder takes the line as that kind.
-/
theorem LineKind.decided_by_columns (line : Text)
    : (∀ kind, ofLine line = kind ↔ Spelled line kind)
      ∧ (∀ event,
          notice? line = some event
          ↔ ∃ control, event = .unrecognisedControl control ∧ StrayLetter line control)
      ∧ (∀ event ∈ notice? line,
          event.level = .debug
          ∧ event.message = "unrecognised control character, treating line as content")
      ∧ ∀ builder : Builder, builder.Takes line (ofLine line) (builder.push line) := by
  refine ⟨ofLine_eq_iff_spelled line, notice?_eq_some_iff line, ?_, fun b => b.takes_push line⟩
  intro event reported
  obtain ⟨control, rfl, _⟩ := (notice?_eq_some_iff line event).mp reported
  exact ⟨rfl, rfl⟩

end CardListing
