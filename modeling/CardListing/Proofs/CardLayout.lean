import CardListing.Card
import CardListing.Proofs.Text.Trimming

/-! A card is its line cut along the layout. The columns of the fields, one field after the
other, are those from 1 to the width of the layout, so the texts of the fields put together
are the covered part of the line, and nothing else of the line is in them.
-/

namespace CardListing

/-- The part of a line that the layout covers, with blanks where the line is shorter. -/
def Text.covered (line : Text) : Text := justify lineWidth (line.take lineWidth)

/-- The columns of a field, counted from 1. -/
def CardField.columns (field : CardField) : List Nat :=
  (List.range field.width).map (field.firstColumn + ·)

/-- The columns of the fields follow one another and leave none out. -/
theorem CardField.flatMap_columns_all
    : all.flatMap columns = (List.range lineWidth).map (· + 1) := by
  decide

theorem CardField.mem_columns {field : CardField} {number : Nat}
    : number ∈ field.columns ↔ field.firstColumn ≤ number ∧ number ≤ field.lastColumn := by
  have start := field.one_le_firstColumn
  have wide := field.one_le_width
  rw [columns, List.mem_map, lastColumn]
  constructor
  · rintro ⟨j, inside, rfl⟩
    have bound := List.mem_range.mp inside
    omega
  · rintro ⟨first, last⟩
    exact ⟨number - field.firstColumn, List.mem_range.mpr (by omega), by omega⟩

namespace Text

theorem length_covered (line : Text) : line.covered.length = lineWidth := by
  rw [covered, length_justify, List.length_take]
  omega

/-- What is covered by the layout is covered as a whole. -/
theorem covered_covered (line : Text) : line.covered.covered = line.covered := by
  have full := line.length_covered
  rw [covered, List.take_of_length_le (Nat.le_of_eq full), justify_of_length_eq full]

/-- The covered part of a line is told by the columns of its card. -/
theorem covered_eq_map_column (line : Text)
    : line.covered = ((List.range lineWidth).map (· + 1)).map (Card.mk line).column := by
  rw [covered, justify_take_eq_map, List.map_map]
  rfl

/-- A covered column is a character of the covered part. -/
theorem getElem?_covered (line : Text) {number : Nat} (first : 1 ≤ number)
    (last : number ≤ lineWidth)
    : line.covered[number - 1]? = some ((Card.mk line).column number) := by
  have inside : number - 1 < lineWidth := by omega
  rw [covered_eq_map_column, List.map_map, List.getElem?_map,
    List.getElem?_range inside, Option.map_some, Function.comp_apply, Nat.sub_add_cancel first]

end Text

namespace Card

/-- The cells of a card are the covered part of its line. -/
theorem cells_eq_covered (card : Card) : card.cells = card.line.covered := by
  rw [Text.covered_eq_map_column]
  apply List.ext_getElem
  · rw [length_cells, List.length_map, List.length_map, List.length_range]
  · intro j inside _
    rw [getElem_cells, List.getElem_map, List.getElem_map, List.getElem_range]

theorem raw_eq_map_columns (card : Card) (field : CardField)
    : card.raw field = field.columns.map card.column := by
  rw [raw_eq_map_column, CardField.columns, List.map_map]
  rfl

/-- The text of a field depends on its columns only. -/
theorem raw_congr {x y : Card} {field : CardField}
    (same : ∀ number, field.firstColumn ≤ number → number ≤ field.lastColumn →
      x.column number = y.column number)
    : x.raw field = y.raw field := by
  rw [raw_eq_map_columns, raw_eq_map_columns]
  apply List.map_congr_left
  intro number member
  obtain ⟨first, last⟩ := CardField.mem_columns.mp member
  exact same number first last

/-- The texts of the fields in the order of the layout are the covered part of the line. -/
theorem flatMap_raw (card : Card) : CardField.all.flatMap card.raw = card.line.covered := by
  have cells : card.raw = fun field => field.columns.map card.column :=
    funext card.raw_eq_map_columns
  rw [cells, ← List.map_flatMap, CardField.flatMap_columns_all, Text.covered_eq_map_column]

/-- Fields have the same text in all of their columns exactly if the covered parts of the lines
are the same.
-/
theorem raw_eq_iff_covered_eq (x y : Card)
    : (∀ field, x.raw field = y.raw field) ↔ x.line.covered = y.line.covered := by
  constructor
  · intro same
    rw [← x.flatMap_raw, ← y.flatMap_raw, funext same]
  · intro same field
    apply raw_congr
    intro number first last
    have start := Nat.le_trans field.one_le_firstColumn first
    have stop := Nat.le_trans last field.lastColumn_le
    have left := x.line.getElem?_covered start stop
    rw [same, y.line.getElem?_covered start stop] at left
    exact (Option.some.inj left).symm

/-- Two cards do not differ in any field. -/
structure SameFields (x y : Card) : Prop where
  raw : x.rawFields = y.rawFields
  content : x.strippedFields = y.strippedFields
  record : x.record = y.record

theorem SameFields.of_raw {x y : Card} (same : ∀ field, x.raw field = y.raw field)
    : x.SameFields y := by
  have raw : x.rawFields = y.rawFields := by
    refine Vector.ext fun i inside => ?_
    have left := x.raw_get_layout ⟨i, inside⟩
    rw [same, y.raw_get_layout] at left
    exact left.symm
  have content : x.strippedFields = y.strippedFields := by
    rw [strippedFields, strippedFields, raw]
  have record : x.record = y.record := by rw [Card.record, Card.record, content]
  exact ⟨raw, content, record⟩

/-- The fields of a card, as they stand in its line. What an array of the card has at a place
is what the field there has by its name, and the record lists all of them in that order.
-/
structure CutAlongLayout (card : Card) : Prop where
  cells : card.cells = card.line.covered
  char
    : ∀ field j,
        j < field.width
        → (card.raw field)[j]? = some (card.line[field.firstColumn + j - 1]?.getD ' ')
  width : ∀ field, (card.raw field).length = field.width
  whole : CardField.all.flatMap card.raw = card.line.covered
  blank : ∀ field, card.content? field = none ↔ ∀ c ∈ card.raw field, isWhite c = true
  stripped : ∀ field text, card.content? field = some text ↔ (card.raw field).StripsTo text
  rawAt : ∀ place, card.rawFields.get place = card.raw (CardField.layout.get place)
  contentAt
    : ∀ place, card.strippedFields.get place = card.record.get (CardField.layout.get place)
  entryAt
    : ∀ place,
        card.record.toList[place.val]?
        = some (CardField.layout.get place, card.strippedFields.get place)
  entries : card.record.toList = CardField.all.map fun field => (field, card.content? field)
  isBlank : card.isBlank = true ↔ ∀ c ∈ card.line.take lineWidth, isWhite c = true

theorem getElem?_raw (card : Card) (field : CardField) {j : Nat} (inside : j < field.width)
    : (card.raw field)[j]? = some (card.line[field.firstColumn + j - 1]?.getD ' ') := by
  rw [raw_eq_map_column, List.getElem?_map, List.getElem?_range inside]
  rfl

/-- A card is blank exactly if the covered part of its line is. -/
theorem isBlank_iff_take (card : Card)
    : card.isBlank = true ↔ ∀ c ∈ card.line.take lineWidth, isWhite c = true := by
  have whole : Text.isBlank (card.line.take lineWidth)
      = CardField.all.all fun field => (card.raw field).isBlank := by
    rw [← Text.isBlank_justify lineWidth, ← Text.covered, ← flatMap_raw, Text.isBlank,
      List.all_flatMap]
    rfl
  rw [← List.all_eq_true, ← Text.isBlank, whole, isBlank_iff, List.all_eq_true]
  exact ⟨fun blank field _ => blank field, fun blank field => blank field field.mem_all⟩

theorem cutAlongLayout (card : Card) : card.CutAlongLayout := by
  constructor
  · exact card.cells_eq_covered
  · intro field j inside
    exact card.getElem?_raw field inside
  · exact card.length_raw
  · exact card.flatMap_raw
  · intro field
    rw [content?_eq_raw, Text.content?_eq_none_iff, Text.isBlank, List.all_eq_true]
  · intro field text
    rw [content?_eq_raw]
    exact Text.content?_eq_some_iff _ _
  · intro place
    exact (card.raw_get_layout place).symm
  · intro place
    rw [get_record, content?_get_layout]
  · intro place
    rw [Record.toList, List.getElem?_map, CardField.getElem?_all, Option.map_some, get_record,
      content?_get_layout]
  · rw [Record.toList]
    apply List.map_congr_left
    intro field _
    rw [get_record]
  · exact card.isBlank_iff_take

/-- Every card is cut along the layout. The covered part of a line, and that alone, decides what
the fields are, so the line that its fields make again has the same ones.
-/
theorem covered_decides_fields (card : Card)
    : card.CutAlongLayout
      ∧ (∀ other : Card,
          (∀ field, other.raw field = card.raw field)
          ↔ other.line.covered = card.line.covered)
      ∧ (∀ other : Card, other.line.covered = card.line.covered → other.SameFields card)
      ∧ (Card.mk (CardField.all.flatMap card.raw)).SameFields card := by
  have decided : ∀ other : Card,
      other.line.covered = card.line.covered → other.SameFields card :=
    fun other same => .of_raw ((raw_eq_iff_covered_eq other card).mpr same)
  refine ⟨card.cutAlongLayout, fun other => raw_eq_iff_covered_eq other card, decided, ?_⟩
  apply decided
  rw [flatMap_raw, Text.covered_covered]

end Card

end CardListing
