import CardListing.Record

/-!
Cutting a line into fields. Reading a card never fails: columns past the end of the line
count as blanks, and text past column `lineWidth` belongs to no field.
-/

namespace CardListing

/-- A listing line seen as a card of ten fields. -/
structure Card where
  /-- The line as it was given. -/
  line : Text
deriving DecidableEq, Repr

namespace Card

/-- The columns that the layout covers, with blanks past the end of the line. -/
def cells (card : Card) : Text :=
  (card.line ++ List.replicate lineWidth ' ').take lineWidth

/-- The texts of the fields, blanks included, each cut from its columns. -/
def rawFields (card : Card) : Vector Text fieldCount :=
  CardField.layout.map fun field => (card.cells.drop field.offset).take field.width

/-- The trimmed texts of the fields, absent where a field is blank. -/
def strippedFields (card : Card) : Vector (Option Text) fieldCount :=
  card.rawFields.map Text.content?

/-- The text in the columns of a field. -/
def raw (card : Card) (field : CardField) : Text := card.rawFields.get field.place

/-- The trimmed text of a field, absent when the field is blank. -/
def content? (card : Card) (field : CardField) : Option Text := card.strippedFields.get field.place

def record (card : Card) : Record := Record.ofArray card.strippedFields

def row (card : Card) : Row := Row.ofRecord card.record

def isBlank (card : Card) : Bool := card.strippedFields.all Option.isNone

/-- The character in a column of the card, counted from 1; a line has blanks past its end. -/
def column (card : Card) (number : Nat) : Char := card.line[number - 1]?.getD ' '

/-- A card has every column of the layout, whatever the length of its line. -/
theorem length_cells (card : Card) : card.cells.length = lineWidth := by
  rw [cells, List.length_take, List.length_append, List.length_replicate]
  omega

theorem getElem_cells (card : Card) {j : Nat} (inside : j < card.cells.length)
    : card.cells[j] = card.column (j + 1) := by
  rw [length_cells] at inside
  simp only [cells, List.getElem_take, List.getElem_append, List.getElem_replicate]
  rw [column, Nat.add_sub_cancel]
  split
  · rename_i within
    rw [List.getElem?_eq_getElem within, Option.getD_some]
  · rename_i past
    rw [List.getElem?_eq_none (by omega), Option.getD_none]

/-- The field at a place of the layout has the text at that place. -/
theorem raw_get_layout (card : Card) (place : Fin fieldCount)
    : card.raw (CardField.layout.get place) = card.rawFields.get place := by
  rw [raw, CardField.place_get_layout]

theorem content?_get_layout (card : Card) (place : Fin fieldCount)
    : card.content? (CardField.layout.get place) = card.strippedFields.get place := by
  rw [content?, CardField.place_get_layout]

theorem raw_eq_cut (card : Card) (field : CardField)
    : card.raw field = (card.cells.drop field.offset).take field.width := by
  have mapped : card.raw field
      = (card.cells.drop (CardField.layout.get field.place).offset).take
          (CardField.layout.get field.place).width :=
    Vector.getElem_map _ field.place.isLt
  rw [mapped, CardField.get_layout_place]

theorem content?_eq_raw (card : Card) (field : CardField)
    : card.content? field = Text.content? (card.raw field) :=
  Vector.getElem_map Text.content? field.place.isLt

@[simp] theorem get_record (card : Card) (field : CardField)
    : card.record.get field = card.content? field := by
  rw [record, Record.get_ofArray, content?]

/-- A field always fills its columns. -/
@[simp] theorem length_raw (card : Card) (field : CardField)
    : (card.raw field).length = field.width := by
  have first := field.one_le_firstColumn
  have stop := field.lastColumn_le
  rw [CardField.lastColumn] at stop
  rw [raw_eq_cut, List.length_take, List.length_drop, length_cells, CardField.offset]
  omega

/-- The text of a field is what stands in its columns, compared position by position. -/
theorem raw_eq_map_column (card : Card) (field : CardField)
    : card.raw field
      = (List.range field.width).map fun j => card.column (field.firstColumn + j) := by
  apply List.ext_getElem
  · rw [length_raw, List.length_map, List.length_range]
  · intro j _ _
    have first := field.one_le_firstColumn
    have number : field.offset + j + 1 = field.firstColumn + j := by
      rw [CardField.offset]
      omega
    simp only [raw_eq_cut, List.getElem_take, List.getElem_drop, getElem_cells, number,
      List.getElem_map, List.getElem_range]

/-- The text of a field is what the line has in its columns, filled up with blanks. -/
theorem raw_eq_justify (card : Card) (field : CardField)
    : card.raw field
      = Text.justify field.width ((card.line.drop field.offset).take field.width) := by
  rw [raw_eq_map_column, Text.justify_take_eq_map]
  apply List.map_congr_left
  intro j _
  have first := field.one_le_firstColumn
  have index : field.firstColumn + j - 1 = field.offset + j := by
    rw [CardField.offset]
    omega
  rw [List.getElem?_drop, column, index]

/-- A card is blank exactly when the text of each field is. -/
theorem isBlank_iff (card : Card)
    : card.isBlank = true ↔ ∀ field, (card.raw field).isBlank = true := by
  have absent (field : CardField)
      : (card.content? field).isNone = true ↔ (card.raw field).isBlank = true := by
    rw [Option.isNone_iff_eq_none, content?_eq_raw, Text.content?_eq_none_iff]
  rw [isBlank, Vector.all_eq_true]
  constructor
  · intro blank field
    exact (absent field).mp (blank field.index field.index_lt)
  · intro blank i inside
    have stripped : card.content? (CardField.layout.get ⟨i, inside⟩) = card.strippedFields[i] :=
      card.content?_get_layout ⟨i, inside⟩
    rw [← stripped]
    exact (absent _).mpr (blank _)

end Card

end CardListing
