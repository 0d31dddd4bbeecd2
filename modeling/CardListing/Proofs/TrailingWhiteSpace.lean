import CardListing.Proofs.CardContents
import CardListing.Proofs.LineReading

/-! White space at the end of a line does not count. Every field, the text of a directive and
the tests that sort lines are the same without it, wherever the line ends in the layout.
-/

namespace CardListing

namespace Card

/-- What white space adds to the columns of a field is blank, so the content stays. -/
theorem content?_append_of_isBlank (line : Text) {white : Text} (h : white.isBlank = true)
    (field : CardField)
    : (Card.mk (line ++ white)).content? field = (Card.mk line).content? field := by
  have added : Text.isBlank ((white.drop (field.offset - line.length)).take
      (field.width - (line.drop field.offset).length)) = true :=
    Text.isBlank_of_sublist ((List.take_sublist _ _).trans (List.drop_sublist _ _)) h
  rw [content?_eq_cut, content?_eq_cut, List.drop_append, List.take_append,
    Text.content?_append_of_isBlank _ added]

theorem record_append_of_isBlank (line : Text) {white : Text} (h : white.isBlank = true)
    : (Card.mk (line ++ white)).record = (Card.mk line).record := by
  refine Record.ext_get _ _ fun field => ?_
  rw [get_record, get_record, content?_append_of_isBlank line h]

theorem row_append_of_isBlank (line : Text) {white : Text} (h : white.isBlank = true)
    : (Card.mk (line ++ white)).row = (Card.mk line).row := by
  rw [row, row, record_append_of_isBlank line h]

end Card

/-- The text of a directive is trimmed at its end anyway. -/
theorem Control.directive?_append_of_isBlank (control : Control) (line : Text) {white : Text}
    (h : white.isBlank = true)
    : control.directive? (line ++ white) = control.directive? line := by
  have added : Text.isBlank (white.drop (control.field.lastColumn - line.length)) = true :=
    Text.isBlank_of_sublist (List.drop_sublist _ _) h
  rw [directive?, directive?, List.drop_append, Text.trimEnd_append_of_isBlank _ _ added]

/-- Nothing after a line that its card decides makes it blank or a comment. -/
theorem ReadAsCard.append {line : Text} (card : ReadAsCard line) (more : Text)
    : ReadAsCard (line ++ more) := by
  refine ⟨by rw [Text.isBlank_append, card.notBlank, Bool.false_and], ?_⟩
  cases line with
  | nil => cases card.notBlank
  | cons c rest => exact card.notComment

namespace Reading

/-- White space at its end has no part in how a line is read, by the conditions of its
reading.
-/
theorem ofLine_append_of_isBlank (line : Text) {white : Text} (h : white.isBlank = true)
    : ofLine (line ++ white) = ofLine line := by
  have record := Card.record_append_of_isBlank line h
  have reads := reads_ofLine line
  generalize ofLine line = reading at reads ⊢
  cases reads with
  | blank blank => exact ofLine_of_isBlank (by rw [Text.isBlank_append, blank, h]; rfl)
  | comment notBlank mark =>
      refine ofLine_of_comment (by rw [Text.isBlank_append, notBlank, Bool.false_and]) ?_
      rw [List.head?_append, mark]
      rfl
  | numbered card lognum =>
      have reading := ofLine_of_lognum (card.append white) (by rw [record]; exact lognum)
      rwa [record] at reading
  | directive card lognum marked found =>
      refine ofLine_of_directive (card.append white) ?_ (record ▸ marked) ?_
      · rw [record]
        exact lognum
      · rw [Control.directive?_append_of_isBlank _ line h]
        exact found
  | unnumbered card lognum plain =>
      rw [← Card.row_append_of_isBlank line h]
      refine ofLine_of_no_directive (card.append white) ?_ ?_
      · rw [record]
        exact lognum
      · simp only [record, Control.directive?_append_of_isBlank _ line h]
        exact plain

@[simp] theorem ofLine_trimEnd (line : Text) : ofLine (Text.trimEnd line) = ofLine line := by
  obtain ⟨white, blank, he⟩ := Text.exists_trimEnd_append line
  rw [← ofLine_append_of_isBlank (Text.trimEnd line) blank, ← he]

end Reading

end CardListing
