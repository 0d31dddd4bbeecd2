import CardListing.Proofs.ColumnGrammar
import CardListing.Proofs.Deck.Concatenation
import CardListing.Proofs.Deck.OutsideColumns
import CardListing.Proofs.Deck.RelistingRoundTrip

/-! The lines that directives are made of. A directive has its letter in one of the control
columns of its line and all that follows it as its text, wherever the line ends in the layout
or past it; and every directive is made of the lines that put its letter before its text.
-/

namespace CardListing

/-- The column in which a directive has its letter: the first, if a letter stands there, and
otherwise the eighth.
-/
def Text.letterColumn (line : Text) : Nat := if line.head?.any isAlphabetic then 1 else 8

/-- The line is a directive written out: its letter in one column, blanks in columns 2 to 7, and
its text after the letter, up to white space at the end.
-/
structure Directive.SpelledBy (line : Text) (d : Directive) : Prop where
  letter : (Card.mk line).column line.letterColumn = d.kind.control
  unnumbered : (Card.mk line).Unnumbered
  text
    : ∃ white : Text,
        white.isBlank = true ∧ line = line.take line.letterColumn ++ d.text ++ white
  trimmed : ∀ c, d.text.getLast? = some c → isWhite c = false

-----------------------------------------------------------------------------------------
-- Letters in control columns
-----------------------------------------------------------------------------------------

theorem Text.letterColumn_eq (line : Text)
    : line.letterColumn = if isAlphabetic ((Card.mk line).column 1) then 1 else 8 := by
  cases line with
  | nil =>
      have empty : (Card.mk []).column 1 = ' ' := rfl
      rw [letterColumn, empty, isAlphabetic_blank]
      rfl
  | cons c rest => rfl

/-- The columns of a blank line are white, those past its end as well. -/
theorem Card.isWhite_column_of_isBlank {line : Text} (blank : line.isBlank = true)
    (number : Nat)
    : isWhite ((Card.mk line).column number) = true := by
  rw [column]
  cases found : (Card.mk line).line[number - 1]? with
  | none => rfl
  | some c => exact List.all_eq_true.mp blank c (List.mem_of_getElem? found)

/-- A letter that stands alone stands where the letter of a directive does. -/
theorem Card.LoneLetter.letterColumn_eq {line : Text} {control : Control}
    (lone : (Card.mk line).LoneLetter control)
    : line.letterColumn = control.field.lastColumn
      ∧ (Card.mk line).column line.letterColumn = control.char := by
  rw [Text.letterColumn_eq]
  cases lone with
  | column1 letter other =>
      rw [if_pos letter]
      exact ⟨rfl, rfl⟩
  | column8 other letter =>
      rw [if_neg (by simp [other])]
      exact ⟨rfl, rfl⟩

/-- A line has the text of a directive after its letter exactly if the rest of the line, trimmed
at its end, is that text.
-/
theorem Text.trimEnd_drop_eq_iff (line : Text) (count : Nat) (text : Text)
    : trimEnd (line.drop count) = text
      ↔ (∀ c, text.getLast? = some c → isWhite c = false)
        ∧ ∃ white : Text, white.isBlank = true ∧ line = line.take count ++ text ++ white := by
  constructor
  · rintro rfl
    obtain ⟨white, blank, rest⟩ := exists_trimEnd_append (line.drop count)
    refine ⟨fun c => isWhite_of_getLast?_trimEnd, white, blank, ?_⟩
    rw [List.append_assoc, ← rest, List.take_append_drop]
  · rintro ⟨trimmed, white, blank, whole⟩
    have rest : line.drop count = text ++ white := by
      rw [List.append_assoc] at whole
      exact List.append_cancel_left ((List.take_append_drop count line).trans whole)
    rw [rest, trimEnd_append_of_isBlank text white blank, trimEnd_eq_self trimmed]

/-- The letter of a spelled directive stands alone unless the eighth column holds one as well. -/
theorem Directive.SpelledBy.exists_loneLetter {line : Text} {d : Directive}
    (h : d.SpelledBy line)
    (alone : line.letterColumn = 1 → isAlphabetic ((Card.mk line).column 8) = false)
    : ∃ control, (Card.mk line).LoneLetter control ∧ control.char = d.kind.control := by
  have letter := h.letter
  rw [Text.letterColumn_eq] at letter alone
  cases one : isAlphabetic ((Card.mk line).column 1) with
  | true =>
      rw [if_pos one] at letter alone
      exact ⟨_, .column1 one (alone rfl), letter⟩
  | false =>
      rw [if_neg (by simp [one])] at letter
      exact ⟨_, .column8 one (letter ▸ d.kind.isAlphabetic_control), letter⟩

/-- A line is read as the directive that it spells, if it is not marked as a comment and its other
control column holds no letter; and only then.
-/
theorem Reading.ofLine_eq_directive_iff (line : Text) (d : Directive)
    : ofLine line = .directive d
      ↔ d.SpelledBy line
        ∧ line.head? ≠ some '#'
        ∧ (line.letterColumn = 1 → isAlphabetic ((Card.mk line).column 8) = false) := by
  constructor
  · intro read
    have reads := reads_ofLine line
    rw [read] at reads
    cases reads with
    | @directive control _ card lognum marked found =>
        have lone := (Card.control?_record_eq_some_iff _ _).mp marked
        obtain ⟨column, letter⟩ := lone.letterColumn_eq
        obtain ⟨announced, text⟩ := (control.directive?_eq_some_iff line d).mp found
        rw [← column] at text
        obtain ⟨trimmed, text⟩ := (Text.trimEnd_drop_eq_iff _ _ _).mp text
        refine ⟨⟨?_, (Card.lognum_record_eq_none_iff _).mp lognum, text, trimmed⟩,
          card.notComment, ?_⟩
        · rw [letter, announced]
        · intro first
          cases lone with
          | column1 _ other => exact other
          | column8 _ _ => cases column.symm.trans first
  · rintro ⟨spelled, notComment, alone⟩
    obtain ⟨control, lone, announced⟩ := spelled.exists_loneLetter alone
    obtain ⟨column, letter⟩ := lone.letterColumn_eq
    have notBlank : line.isBlank = false := by
      apply Bool.eq_false_iff.mpr
      intro blank
      have white := Card.isWhite_column_of_isBlank blank line.letterColumn
      have isNot := isAlphabetic_of_isWhite white
      rw [letter, announced, d.kind.isAlphabetic_control] at isNot
      cases isNot
    have text := (Text.trimEnd_drop_eq_iff line _ d.text).mpr ⟨spelled.trimmed, spelled.text⟩
    rw [column] at text
    exact ofLine_of_directive ⟨notBlank, notComment⟩
      ((Card.lognum_record_eq_none_iff _).mpr spelled.unnumbered)
      ((Card.control?_record_eq_some_iff _ _).mpr lone)
      ((control.directive?_eq_some_iff line d).mpr ⟨announced, text⟩)

-----------------------------------------------------------------------------------------
-- Lines with the letter in the first column
-----------------------------------------------------------------------------------------

theorem Card.column_cons (c : Char) (rest : Text) {number : Nat} (first : 1 ≤ number)
    : (Card.mk (c :: rest)).column (number + 1) = (Card.mk rest).column number := by
  obtain ⟨n, rfl⟩ := Nat.exists_eq_add_of_le' first
  rw [column, column, Nat.add_sub_cancel, Nat.add_sub_cancel, List.getElem?_cons_succ]

/-- After a first character, columns 2 to 7 are the first six characters of the rest. -/
theorem Card.unnumbered_cons_iff (c : Char) (rest : Text)
    : (Card.mk (c :: rest)).Unnumbered ↔ ∀ d ∈ rest.take 6, isWhite d = true := by
  constructor
  · intro unnumbered d member
    obtain ⟨j, found⟩ := List.mem_iff_getElem?.mp member
    have inside : j < 6 := by
      have bound := (List.getElem?_eq_some_iff.mp found).1
      rw [List.length_take] at bound
      omega
    rw [List.getElem?_take_of_lt inside] at found
    have white := unnumbered (j + 2) (by omega) (by omega)
    rw [column_cons c rest (by omega), column, Nat.add_sub_cancel, found] at white
    exact white
  · intro white number first last
    obtain ⟨j, rfl⟩ := Nat.exists_eq_add_of_le' first
    rw [column_cons c rest (by omega), column, Nat.add_sub_cancel]
    cases found : rest[j]? with
    | none => rfl
    | some d =>
        have member : d ∈ rest.take 6 := by
          rw [← List.getElem?_take_of_lt (by omega : j < 6)] at found
          exact List.mem_of_getElem? found
        exact white d member

/-- A line of a control letter and a text is read as the directive of both exactly if the text has
blanks up to the eighth column and no letter there.
-/
theorem Reading.ofLine_control_cons_iff {d : Directive}
    (trimmed : ∀ c, d.text.getLast? = some c → isWhite c = false)
    : ofLine (d.kind.control :: d.text) = .directive d
      ↔ (∀ c ∈ d.text.take 6, isWhite c = true)
        ∧ ∀ c, d.text[6]? = some c → isAlphabetic c = false := by
  have letter : Text.letterColumn (d.kind.control :: d.text) = 1 := by
    rw [Text.letterColumn_eq]
    exact if_pos d.kind.isAlphabetic_control
  have notComment : (d.kind.control :: d.text).head? ≠ some '#' := by
    intro mark
    have same : d.kind.control = '#' := Option.some.inj mark
    revert same
    cases d.kind <;> decide
  have eighth : isAlphabetic ((Card.mk (d.kind.control :: d.text)).column 8) = false
      ↔ ∀ c, d.text[6]? = some c → isAlphabetic c = false := by
    rw [Card.column_cons _ _ (by omega), Card.column]
    cases found : d.text[6]? with
    | none => simp [isAlphabetic_blank]
    | some c => simp
  rw [ofLine_eq_directive_iff, letter, eighth]
  constructor
  · rintro ⟨spelled, _, alone⟩
    exact ⟨(Card.unnumbered_cons_iff _ _).mp spelled.unnumbered, alone rfl⟩
  · rintro ⟨blank, alone⟩
    refine ⟨⟨?_, (Card.unnumbered_cons_iff _ _).mpr blank, ?_, trimmed⟩, notComment,
      fun _ => alone⟩
    · rw [letter]
      rfl
    · refine ⟨[], rfl, ?_⟩
      rw [letter, List.append_nil]
      rfl

-----------------------------------------------------------------------------------------
-- Directives of listings
-----------------------------------------------------------------------------------------

namespace Deck

/-- In a listing, the line between the others becomes the directive: an entry of its own. -/
def Becomes (before : List Text) (line : Text) (after : List Text) (d : Directive) : Prop :=
  (ofLines (before ++ line :: after)).entries
    = (ofLines before).entries ++ .directive d :: (ofLines after).entries

/-- A head takes nothing from the lines before it and leaves them nothing. -/
theorem entries_append_of_isHead (before : List Text) {line : Text} (after : List Text)
    (head : (Reading.ofLine line).isHead = true)
    : (ofLines (before ++ line :: after)).entries
      = (ofLines before).entries ++ (ofLines (line :: after)).entries := by
  cases current : (Builder.run {} before).current with
  | none => exact entries_append_of_closed (line :: after) current
  | some s =>
      have rows : leadRows (line :: after) = [] := by rw [leadRows_cons, if_pos head]
      have whole : (ofLines before).entries
          = (Builder.emissions {} before).flatMap Emission.entries ++ [.statement s] :=
        Builder.drain_eq_emissions_append current
      rw [entries_append_of_open (line :: after) current, rows, Statement.extend_nil, whole,
        List.append_assoc, List.singleton_append]

theorem length_entries_append_cons (before : List Text) (line : Text) (after : List Text)
    : (ofLines (before ++ line :: after)).entries.length
      = (ofLines before).entries.length
        + (if (Reading.ofLine line).isHead then 1 else 0)
        + (ofLines after).entries.length := by
  simp only [entries_ofLines, ← length_headLines, headLines, List.filter_append,
    List.filter_cons, List.length_append]
  cases (Reading.ofLine line).isHead
  · rfl
  · simp only [if_true, List.length_cons]
    omega

/-- In every listing a line becomes the directive that it is read as, and no other line does. -/
theorem becomes_iff_ofLine_eq (before : List Text) (line : Text) (after : List Text)
    (d : Directive)
    : Becomes before line after d ↔ Reading.ofLine line = .directive d := by
  have alone : (ofLines (line :: after)).entries
      = ((Reading.ofLine line).directive?.map Entry.directive).toList
        ++ ((Reading.ofLine line).opened?.map
            fun s => .statement (s.extend (leadRows after))).toList
        ++ (ofLines after).entries := by
    rw [entries_ofLines, entries_ofLines, segments_cons]
  constructor
  · intro becomes
    have head : (Reading.ofLine line).isHead = true := by
      have count := congrArg List.length becomes
      rw [length_entries_append_cons, List.length_append, List.length_cons] at count
      split at count
      · assumption
      · omega
    rw [Becomes, entries_append_of_isHead before after head, alone] at becomes
    have first := List.append_cancel_left becomes
    cases read : Reading.ofLine line with
    | blank | comment | unnumbered _ =>
        rw [read] at head
        cases head
    | numbered record =>
        rw [read] at first
        cases first
    | directive other =>
        rw [read] at first
        cases first
        rfl
  · intro read
    rw [read] at alone
    rw [Becomes, entries_append_of_isHead before after (by rw [read]; rfl), alone]
    rfl

/-- A line becomes a directive in a listing exactly if it spells it, is not marked as a comment,
and holds no letter in the eighth column beside one in the first. Every directive whose text does
not end in white space is made of its letter in the eighth column before its text, and of its
letter in the first exactly if the text leaves the columns up to the eighth without content.
-/
theorem becomes_iff_spelledBy (before after : List Text)
    : (∀ line d,
        Becomes before line after d
        ↔ d.SpelledBy line
          ∧ line.head? ≠ some '#'
          ∧ (line.letterColumn = 1 → isAlphabetic ((Card.mk line).column 8) = false))
      ∧ ∀ d : Directive,
        (∀ c, d.text.getLast? = some c → isWhite c = false)
        → Becomes before (List.replicate 7 ' ' ++ d.kind.control :: d.text) after d
          ∧ (Becomes before (d.kind.control :: d.text) after d
            ↔ (∀ c ∈ d.text.take 6, isWhite c = true)
              ∧ ∀ c, d.text[6]? = some c → isAlphabetic c = false) := by
  constructor
  · intro line d
    rw [becomes_iff_ofLine_eq, Reading.ofLine_eq_directive_iff]
  · intro d trimmed
    have wellFormed : d.WellFormed := Text.trimEnd_eq_self trimmed
    constructor
    · exact (becomes_iff_ofLine_eq before _ after d).mpr wellFormed.ofLine_relist
    · rw [becomes_iff_ofLine_eq, Reading.ofLine_control_cons_iff trimmed]

end Deck

end CardListing
