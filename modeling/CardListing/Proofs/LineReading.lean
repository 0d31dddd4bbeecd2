import CardListing.Proofs.CardContents
import CardListing.Reading

/-! When a line is read as what. Each form of a reading has its exact condition on the
line's text and on the record of its card, so that later arguments need not open the reader.
-/

namespace CardListing

/-- The line is neither blank nor a comment, so its card decides how it is read. -/
structure ReadAsCard (line : Text) : Prop where
  notBlank : line.isBlank = false
  notComment : line.head? ≠ some '#'

/-- A card with a field that is not blank, whose first column holds no comment mark, decides
how its line is read.
-/
theorem ReadAsCard.of_record {line : Text} (field : CardField)
    (content : (Card.mk line).record.get field ≠ none)
    (mark : (Card.mk line).record.column1 ≠ some ['#'])
    : ReadAsCard line := by
  constructor
  · cases blank : line.isBlank with
    | false => rfl
    | true =>
        rw [Card.get_record, Card.content?_of_isBlank blank] at content
        exact (content rfl).elim
  · intro head
    exact mark ((Card.content?_column1_eq_mark_iff line).mpr head)

theorem ReadAsCard.column1_ne_mark {line : Text} (card : ReadAsCard line)
    : (Card.mk line).record.column1 ≠ some ['#'] := by
  intro mark
  exact card.notComment ((Card.content?_column1_eq_mark_iff line).mp mark)

namespace Reading

theorem ofLine_of_isBlank {line : Text} (h : line.isBlank = true) : ofLine line = .blank := by
  simp [ofLine, h]

theorem ofLine_of_comment {line : Text} (hb : line.isBlank = false)
    (hc : line.head? = some '#')
    : ofLine line = .comment := by
  simp [ofLine, hb, hc]

theorem ofLine_of_lognum {line : Text} (h : ReadAsCard line)
    (hn : (Card.mk line).record.lognum.isSome = true)
    : ofLine line = .numbered (Card.mk line).record := by
  simp [ofLine, h.notBlank, h.notComment, hn]

theorem ofLine_of_directive {line : Text} {control : Control} {d : Directive}
    (h : ReadAsCard line) (hn : (Card.mk line).record.lognum = none)
    (hc : (Card.mk line).record.control? = some control)
    (hd : control.directive? line = some d)
    : ofLine line = .directive d := by
  simp [ofLine, h.notBlank, h.notComment, hn, hc, hd]

theorem ofLine_of_no_directive {line : Text} (h : ReadAsCard line)
    (hn : (Card.mk line).record.lognum = none)
    (hc : ((Card.mk line).record.control?.bind fun mark => mark.directive? line) = none)
    : ofLine line = .unnumbered (Card.mk line).row := by
  simp [ofLine, h.notBlank, h.notComment, hn, hc, Card.row]

/-- The conditions under which a line is read as it is. -/
inductive Reads (line : Text) : Reading → Prop
  | blank (blank : line.isBlank = true) : Reads line .blank
  | comment (notBlank : line.isBlank = false) (mark : line.head? = some '#')
    : Reads line .comment
  | numbered (card : ReadAsCard line)
    (lognum : (Card.mk line).record.lognum.isSome = true)
    : Reads line (.numbered (Card.mk line).record)
  | directive {control d} (card : ReadAsCard line)
    (lognum : (Card.mk line).record.lognum = none)
    (marked : (Card.mk line).record.control? = some control)
    (found : control.directive? line = some d)
    : Reads line (.directive d)
  | unnumbered (card : ReadAsCard line) (lognum : (Card.mk line).record.lognum = none)
    (plain : ((Card.mk line).record.control?.bind fun mark => mark.directive? line) = none)
    : Reads line (.unnumbered (Card.mk line).row)

/-- Every line meets the conditions of its reading, by the order of the reader's tests. -/
theorem reads_ofLine (line : Text) : Reads line (ofLine line) := by
  cases hb : line.isBlank with
  | true => exact ofLine_of_isBlank hb ▸ .blank hb
  | false =>
      by_cases hc : line.head? = some '#'
      · exact ofLine_of_comment hb hc ▸ .comment hb hc
      have card : ReadAsCard line := ⟨hb, hc⟩
      cases hn : (Card.mk line).record.lognum with
      | some lognum =>
          have hs : (Card.mk line).record.lognum.isSome = true := by simp [hn]
          exact ofLine_of_lognum card hs ▸ .numbered card hs
      | none =>
          cases hd : (Card.mk line).record.control?.bind fun mark => mark.directive? line with
          | none => exact ofLine_of_no_directive card hn hd ▸ .unnumbered card hn hd
          | some d =>
              obtain ⟨control, found, he⟩ := Option.bind_eq_some_iff.mp hd
              exact ofLine_of_directive card hn found he ▸ .directive card hn found he

end Reading

end CardListing
