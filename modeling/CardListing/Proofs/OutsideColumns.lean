import CardListing.Proofs.CardContents
import CardListing.Proofs.CardLayout
import CardListing.Proofs.Deck.IdleLines
import CardListing.Proofs.LineReading

/-! The columns of a line that its reading does not depend on. No field reaches past the
layout, so a line cut there has the same record and only a directive loses text; a line
without a number keeps its row when the columns before it are blanked.
-/

namespace CardListing

namespace Text

/-- The text with blanks for its first characters, for all of them if there are no more. -/
def blankStart (count : Nat) (text : Text) : Text :=
  List.replicate (min count text.length) ' ' ++ text.drop count

theorem length_blankStart (count : Nat) (text : Text)
    : (text.blankStart count).length = text.length := by
  rw [blankStart, List.length_append, List.length_replicate, List.length_drop]
  omega

theorem getElem?_blankStart_of_lt {count i : Nat} (text : Text) (h : i < count)
    : (text.blankStart count)[i]? = text[i]?.map fun _ => ' ' := by
  rcases Nat.lt_or_ge i text.length with inside | past
  · have blank : i < min count text.length := by omega
    rw [blankStart, List.getElem?_append_left (by simpa using blank),
      List.getElem?_replicate_of_lt blank, List.getElem?_eq_getElem inside]
    rfl
  · have past' : (text.blankStart count).length ≤ i := by rwa [length_blankStart]
    rw [List.getElem?_eq_none past, List.getElem?_eq_none past']
    rfl

theorem getElem?_blankStart_of_le {count i : Nat} (text : Text) (h : count ≤ i)
    : (text.blankStart count)[i]? = text[i]? := by
  rcases Nat.lt_or_ge text.length count with short | long
  · have past : text.length ≤ i := by omega
    have past' : (text.blankStart count).length ≤ i := by rwa [length_blankStart]
    rw [List.getElem?_eq_none past, List.getElem?_eq_none past']
  · rw [blankStart, Nat.min_eq_left long,
      List.getElem?_append_right (by simpa using h), List.length_replicate,
      List.getElem?_drop, Nat.add_sub_of_le h]

end Text

/-- A row is told by the six fields of its record. -/
theorem Row.ofRecord_congr {x y : Record} (h : ∀ field ∈ fields, x.get field = y.get field)
    : ofRecord x = ofRecord y := by
  simpa [ofRecord, fields, Record.get] using h

namespace Card

-----------------------------------------------------------------------------------------
-- Fields by their columns
-----------------------------------------------------------------------------------------

/-- The content of a field depends on its columns only. -/
theorem content?_congr {x y : Card} {field : CardField}
    (same : ∀ number, field.firstColumn ≤ number → number ≤ field.lastColumn →
      x.column number = y.column number)
    : x.content? field = y.content? field := by
  rw [content?_eq_raw, content?_eq_raw, raw_congr same]

/-- No field has a column that a cut at the end of the layout takes away. -/
theorem record_take (line : Text)
    : (Card.mk (line.take lineWidth)).record = (Card.mk line).record := by
  have covered : Text.covered (line.take lineWidth) = line.covered := by
    rw [Text.covered, Text.covered, List.take_take, Nat.min_self]
  exact (SameFields.of_raw ((raw_eq_iff_covered_eq _ _).mpr covered)).record

theorem content?_blankStart_of_le {count : Nat} {field : CardField}
    (h : field.lastColumn ≤ count) (line : Text)
    : (Card.mk (line.blankStart count)).content? field = none := by
  have empty : (Card.mk []).content? field = none := content?_of_isBlank rfl field
  rw [← empty]
  refine content?_congr fun number first last => ?_
  have index : number - 1 < count := by
    have start := field.one_le_firstColumn
    omega
  have blank := Text.getElem?_blankStart_of_lt line index
  rw [column, column, blank, List.getElem?_nil]
  exact Option.getD_map (fun _ => ' ') ' ' _

theorem content?_blankStart_of_lt {count : Nat} {field : CardField}
    (h : count < field.firstColumn) (line : Text)
    : (Card.mk (line.blankStart count)).content? field = (Card.mk line).content? field := by
  refine content?_congr fun number first last => ?_
  have index : count ≤ number - 1 := by omega
  rw [column, column, Text.getElem?_blankStart_of_le line index]

/-- The columns of a row start after column 19. -/
theorem row_blankStart (line : Text)
    : (Card.mk (line.blankStart 19)).row = (Card.mk line).row := by
  refine Row.ofRecord_congr fun field member => ?_
  have after : 19 < field.firstColumn := by
    revert member
    cases field <;> decide
  rw [get_record, get_record, content?_blankStart_of_lt after]

end Card

-----------------------------------------------------------------------------------------
-- Lines without a number or a directive
-----------------------------------------------------------------------------------------

/-- Nothing in the record but its row counts for how its line is read. -/
structure Record.Plain (record : Record) : Prop where
  mark : record.column1 ≠ some ['#']
  lognum : record.lognum = none
  letter
    : ∀ control,
        record.control? = some control → Directive.Kind.ofControl? control.char = none

/-- The record of a card that is neither numbered nor a directive is plain. -/
theorem Reading.plain_of_no_directive {line : Text} (card : ReadAsCard line)
    (lognum : (Card.mk line).record.lognum = none)
    (plain : ((Card.mk line).record.control?.bind fun mark => mark.directive? line) = none)
    : (Card.mk line).record.Plain := by
  refine ⟨card.column1_ne_mark, lognum, fun control marked => ?_⟩
  have none := Option.bind_eq_none_iff.mp plain control marked
  rwa [Control.directive?, Option.map_eq_none_iff] at none

/-- A line with a plain record has the part of its row in a deck, also where it is blank and
its row is empty.
-/
theorem Record.Plain.alike_ofLine {line : Text} (h : (Card.mk line).record.Plain)
    : (Reading.unnumbered (Card.mk line).row).Alike (Reading.ofLine line) := by
  cases blank : line.isBlank with
  | false =>
      have card : ReadAsCard line :=
        ⟨blank, fun head => h.mark ((Card.content?_column1_eq_mark_iff line).mpr head)⟩
      have plain
          : ((Card.mk line).record.control?.bind fun mark => mark.directive? line) = none := by
        refine Option.bind_eq_none_iff.mpr fun control marked => ?_
        rw [Control.directive?, h.letter control marked, Option.map_none]
      rw [Reading.ofLine_of_no_directive card h.lognum plain]
      exact .refl _
  | true =>
      have empty : (Card.mk line).row.isEmpty = true := by
        have absent : (Card.mk line).row = Row.ofRecord (Record.ofFn fun _ => none) :=
          Row.ofRecord_congr fun field _ => by
            rw [Card.get_record, Card.content?_of_isBlank blank, Record.get_ofFn]
        rw [absent]
        rfl
      rw [Reading.ofLine_of_isBlank blank]
      exact (Reading.idle_unnumbered empty).alike Reading.idle_blank

/-- Blanks before the row of an unnumbered line leave its part in a deck as it is. -/
theorem Reading.alike_blankStart {line : Text} {row : Row} (h : ofLine line = .unnumbered row)
    : (ofLine line).Alike (ofLine (line.blankStart 19)) := by
  have absent : ∀ field, field.lastColumn ≤ 19 →
      (Card.mk (line.blankStart 19)).record.get field = none := by
    intro field before
    rw [Card.get_record, Card.content?_blankStart_of_le before]
  have plain : (Card.mk (line.blankStart 19)).record.Plain := by
    have column1 : (Card.mk (line.blankStart 19)).record.column1 = none :=
      absent .column1 (by decide)
    have lognum : (Card.mk (line.blankStart 19)).record.lognum = none :=
      absent .lognum (by decide)
    have column8 : (Card.mk (line.blankStart 19)).record.column8 = none :=
      absent .column8 (by decide)
    refine ⟨?_, lognum, ?_⟩
    · rw [column1]
      exact nofun
    · rw [Record.control?, column1, column8]
      exact nofun
  have reads := reads_ofLine line
  rw [h] at reads ⊢
  cases reads
  rw [← Card.row_blankStart line]
  exact plain.alike_ofLine

-----------------------------------------------------------------------------------------
-- Lines cut at the end of the layout
-----------------------------------------------------------------------------------------

/-- What is left of a directive when its line is cut at the end of the layout: as many
characters as there are columns after its letter.
-/
inductive Directive.CutTo (line : Text) (d : Directive) : Directive → Prop
  | column1 {c} (marked : (Card.mk line).record.control? = some ⟨c, .column1⟩)
    : CutTo line d { d with text := Text.trimEnd (d.text.take 119) }
  | column8 {c} (marked : (Card.mk line).record.control? = some ⟨c, .column8⟩)
    : CutTo line d { d with text := Text.trimEnd (d.text.take 112) }

/-- The two places where a control character can stand. -/
inductive Control.StandsIn (record : Record) : Control → Prop
  | column1 {c} (alone : record.column1 = some [c]) : StandsIn record ⟨c, .column1⟩
  | column8 {c} (alone : record.column8 = some [c]) : StandsIn record ⟨c, .column8⟩

theorem eq_of_controlChar? {content : Option Text} {c : Char} (h : controlChar? content = some c)
    : content = some [c] := by
  unfold controlChar? at h
  split at h
  · split at h
    · cases h
      rfl
    · cases h
  · cases h

theorem Record.standsIn_of_control? {record : Record} {control : Control}
    (h : record.control? = some control)
    : control.StandsIn record := by
  unfold control? at h
  split at h
  · rename_i found _
    cases h
    exact .column1 (eq_of_controlChar? found)
  · rename_i _ found
    cases h
    exact .column8 (eq_of_controlChar? found)
  · cases h

theorem Control.directive?_take {control : Control} {line : Text} {d : Directive}
    (h : control.directive? line = some d)
    : control.directive? (line.take lineWidth)
      = some { d with
          text := Text.trimEnd (d.text.take (lineWidth - control.field.lastColumn)) } := by
  obtain ⟨kind, letter, rfl⟩ := Option.map_eq_some_iff.mp h
  rw [directive?, letter, Option.map_some, List.drop_take, Text.trimEnd_take_trimEnd]

/-- A line that is read as a card because of what a field holds still is after the cut. -/
theorem ReadAsCard.take {line : Text} (card : ReadAsCard line) (field : CardField)
    (content : (Card.mk line).record.get field ≠ none)
    : ReadAsCard (line.take lineWidth) := by
  refine .of_record field ?_ ?_
  · rwa [Card.record_take]
  · rw [Card.record_take]
    exact card.column1_ne_mark

/-- How the reading of a line and that of the line cut at the end of the layout belong
together. Neither of the two has an entry, or both have the same record or directive.
-/
inductive Reading.CutTo (line : Text) : Reading → Reading → Prop
  | aside {whole cut} (left : whole.isHead = false) (right : cut.isHead = false)
    (row : whole.continuation? = cut.continuation?)
    : CutTo line whole cut
  | numbered (record : Record) : CutTo line (.numbered record) (.numbered record)
  | directive {d e} (cut : d.CutTo line e) : CutTo line (.directive d) (.directive e)

/-- The cut moves no head and no row. -/
theorem Reading.CutTo.place {line : Text} {whole cut : Reading} (h : CutTo line whole cut)
    : whole.isHead = cut.isHead ∧ whole.continuation? = cut.continuation? := by
  cases h with
  | aside left right row => exact ⟨left.trans right.symm, row⟩
  | numbered record => exact ⟨rfl, rfl⟩
  | directive cut => exact ⟨rfl, rfl⟩

/-- Cutting a line at the end of the layout, by the conditions of its reading. -/
theorem Reading.cutTo_ofLine (line : Text)
    : CutTo line (ofLine line) (ofLine (line.take lineWidth)) := by
  have record := Card.record_take line
  have reads := reads_ofLine line
  generalize ofLine line = reading at reads ⊢
  cases reads with
  | blank blank =>
      have cut := Text.isBlank_of_sublist (List.take_sublist lineWidth line) blank
      rw [ofLine_of_isBlank cut]
      exact .aside rfl rfl rfl
  | comment _ mark =>
      obtain ⟨rest, rfl⟩ := List.head?_eq_some_iff.mp mark
      have cut : ofLine (List.take lineWidth ('#' :: rest)) = .comment :=
        ofLine_of_comment rfl rfl
      rw [cut]
      exact .aside rfl rfl rfl
  | numbered card lognum =>
      have cut := card.take .lognum (Option.isSome_iff_ne_none.mp lognum)
      have reading := ofLine_of_lognum cut (by rwa [record])
      rw [record] at reading
      rw [reading]
      exact .numbered _
  | @directive control d card lognum marked found =>
      have lognum' : (Card.mk (line.take lineWidth)).record.lognum = none := by rwa [record]
      have marked' : (Card.mk (line.take lineWidth)).record.control? = some control := by
        rwa [record]
      have found' := Control.directive?_take found
      cases Record.standsIn_of_control? marked with
      | column1 alone =>
          have cut := card.take .column1 (by rw [Record.get, alone]; exact nofun)
          rw [ofLine_of_directive cut lognum' marked' found']
          exact .directive (.column1 marked)
      | column8 alone =>
          have cut := card.take .column8 (by rw [Record.get, alone]; exact nofun)
          rw [ofLine_of_directive cut lognum' marked' found']
          exact .directive (.column8 marked)
  | unnumbered card lognum plain =>
      -- All of its text may stand behind the cut, so the line is blank or unnumbered after it.
      have plain := plain_of_no_directive card lognum plain
      rw [← record] at plain
      have alike := plain.alike_ofLine
      rw [Card.row, record] at alike
      refine .aside rfl ?_ alike.continuation
      rw [← alike.isHead]
      rfl

end CardListing
