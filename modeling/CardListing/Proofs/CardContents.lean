import CardListing.Deck.Relisting
import CardListing.Proofs.Text.Trimming

/-! What cards hold and what is read back from a relisted record. Contents fit their columns
without white space at their ends; a record of such contents, put at the left of its columns,
is the record of the line that it makes.
-/

namespace CardListing

/-- Every field of the record that is not absent holds content that fits its columns. -/
def Record.Fits (record : Record) : Prop :=
  ∀ field text,
    record.get field = some text → text.IsContent ∧ text.length ≤ field.width

namespace Card

theorem fits_record (card : Card) : card.record.Fits := by
  intro field text h
  rw [get_record, content?_eq_raw] at h
  refine ⟨Text.isContent_of_content? h, ?_⟩
  rw [← card.length_raw field]
  exact Text.length_le_of_content? h

/-- The content of a field is what the line has in its columns between white space. -/
theorem content?_eq_cut (card : Card) (field : CardField)
    : card.content? field
      = Text.content? ((card.line.drop field.offset).take field.width) := by
  rw [content?_eq_raw, raw_eq_justify, Text.content?_justify]

/-- A blank line has no content in any field. -/
theorem content?_of_isBlank {line : Text} (h : line.isBlank = true) (field : CardField)
    : (Card.mk line).content? field = none := by
  have cut : ((line.drop field.offset).take field.width).Sublist line :=
    (List.take_sublist _ _).trans (List.drop_sublist _ _)
  rw [content?_eq_cut, Text.content?_eq_none_iff]
  exact Text.isBlank_of_sublist cut h

/-- The first field holds a comment mark exactly if the line starts with it. -/
theorem content?_column1_eq_mark_iff (line : Text)
    : (Card.mk line).content? .column1 = some ['#'] ↔ line.head? = some '#' := by
  rw [content?_eq_cut]
  cases line with
  | nil => decide
  | cons c rest =>
      have first : ((c :: rest).drop CardField.column1.offset).take CardField.column1.width
          = [c] := rfl
      rw [first]
      cases hc : isWhite c
      · simp [(Text.isContent_singleton hc).content?_eq]
      · have other : c ≠ '#' := by
          rintro rfl
          cases hc
        simp [Text.content?_eq, hc, other]

end Card

-----------------------------------------------------------------------------------------
-- Relisted records
-----------------------------------------------------------------------------------------

/-- The columns of a relisted field. -/
def Record.cell (record : Record) (field : CardField) : Text :=
  Text.justify field.width ((record.get field).getD [])

theorem Record.relist_eq (record : Record)
    : record.relist = CardField.all.flatMap record.cell := by
  rw [relist, toList, List.flatMap_map]
  rfl

/-- Fields stand one after the other: those before a field fill the columns before it. -/
theorem CardField.exists_all_eq (field : CardField)
    : ∃ before after,
        all = before ++ field :: after
        ∧ ∀ cell : CardField → Text,
            (∀ f, (cell f).length = f.width) → (before.flatMap cell).length = field.offset := by
  refine ⟨all.take field.index, all.drop (field.index + 1), ?_, ?_⟩
  · cases field <;> rfl
  · intro cell full
    cases field <;> simp [all, index, full, width, offset, firstColumn]

namespace Record

variable {record : Record}

theorem Fits.length_cell (h : record.Fits) (field : CardField)
    : (record.cell field).length = field.width := by
  rw [cell, Text.length_justify]
  cases hf : record.get field with
  | none => simp
  | some text =>
      have fits := (h field text hf).2
      rw [Option.getD_some]
      omega

/-- A field of the relisted line is the cell that was written for it. -/
theorem Fits.raw_relist (h : record.Fits) (field : CardField)
    : (Card.mk record.relist).raw field = record.cell field := by
  obtain ⟨before, after, hall, hoffset⟩ := field.exists_all_eq
  have skipped : (before.flatMap record.cell).length = field.offset :=
    hoffset record.cell h.length_cell
  have line : record.relist
      = before.flatMap record.cell ++ (record.cell field ++ after.flatMap record.cell) := by
    rw [relist_eq, hall, List.flatMap_append, List.flatMap_cons]
  rw [Card.raw_eq_justify, line, ← skipped, List.drop_left, ← h.length_cell field, List.take_left,
    Text.justify_of_length_eq rfl]

/-- Reading the line of a record whose contents fit gives the record back. -/
theorem Fits.record_relist (h : record.Fits) : (Card.mk record.relist).record = record := by
  refine ext_get _ _ fun field => ?_
  rw [Card.get_record, Card.content?_eq_raw, h.raw_relist, cell, Text.content?_justify]
  cases hf : record.get field with
  | none => rfl
  | some text => exact (h field text hf).1.content?_eq

end Record

/-- A relisted row is the relisted record that has nothing in the other columns. -/
theorem Row.relist_eq (row : Row) : row.relist = row.toRecord.relist := by
  rw [relist, Record.relist_eq, toList, List.flatMap_map]
  rfl

end CardListing
