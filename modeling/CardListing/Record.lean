import CardListing.CardField
import CardListing.Text.Basic

/-!
The contents of a card's fields. A record has all ten, a row only the six that describe
an operation. A field that is blank on the card is absent here.
-/

namespace CardListing

/-- The ten fields of a card, each trimmed, absent when blank. -/
structure Record where
  column1 : Option Text
  lognum : Option Text
  column8 : Option Text
  label : Option Text
  operation : Option Text
  operand1 : Option Text
  operand2 : Option Text
  operand3 : Option Text
  misc : Option Text
  remarks : Option Text
deriving DecidableEq, Repr

namespace Record

/-- The record whose fields are given by a function. -/
def ofFn (f : CardField → Option Text) : Record where
  column1 := f .column1
  lognum := f .lognum
  column8 := f .column8
  label := f .label
  operation := f .operation
  operand1 := f .operand1
  operand2 := f .operand2
  operand3 := f .operand3
  misc := f .misc
  remarks := f .remarks

/-- The record whose fields stand in an array, in the order of the layout. -/
def ofArray (fields : Vector (Option Text) fieldCount) : Record where
  column1 := fields[0]
  lognum := fields[1]
  column8 := fields[2]
  label := fields[3]
  operation := fields[4]
  operand1 := fields[5]
  operand2 := fields[6]
  operand3 := fields[7]
  misc := fields[8]
  remarks := fields[9]

def get (record : Record) : CardField → Option Text
  | .column1 => record.column1
  | .lognum => record.lognum
  | .column8 => record.column8
  | .label => record.label
  | .operation => record.operation
  | .operand1 => record.operand1
  | .operand2 => record.operand2
  | .operand3 => record.operand3
  | .misc => record.misc
  | .remarks => record.remarks

/-- The fields with their contents, in the order of the layout. -/
def toList (record : Record) : List (CardField × Option Text) :=
  CardField.all.map fun field => (field, record.get field)

@[simp] theorem get_ofFn (f : CardField → Option Text) (field : CardField)
    : (ofFn f).get field = f field := by
  cases field <;> rfl

/-- What an array has at the place of a field is what its record has there. -/
@[simp] theorem get_ofArray (fields : Vector (Option Text) fieldCount) (field : CardField)
    : (ofArray fields).get field = fields.get field.place := by
  cases field <;> rfl

@[simp] theorem ofFn_get (record : Record) : ofFn record.get = record := rfl

/-- A record is determined by its contents at every field. -/
theorem ext_get (x y : Record) (h : ∀ field, x.get field = y.get field) : x = y := by
  rw [← ofFn_get x, ← ofFn_get y, funext h]

end Record

/-- The operation columns of a card: what a continuation line adds to its statement. -/
structure Row where
  operation : Option Text
  operand1 : Option Text
  operand2 : Option Text
  operand3 : Option Text
  misc : Option Text
  remarks : Option Text
deriving DecidableEq, Repr

namespace Row

/-- The six fields of a row, in the order of the layout. -/
def fields : List CardField := [.operation, .operand1, .operand2, .operand3, .misc, .remarks]

def ofRecord (record : Record) : Row where
  operation := record.operation
  operand1 := record.operand1
  operand2 := record.operand2
  operand3 := record.operand3
  misc := record.misc
  remarks := record.remarks

/-- The record with this row's columns and nothing in the others. -/
def toRecord (row : Row) : Record where
  column1 := none
  lognum := none
  column8 := none
  label := none
  operation := row.operation
  operand1 := row.operand1
  operand2 := row.operand2
  operand3 := row.operand3
  misc := row.misc
  remarks := row.remarks

/-- The fields with their contents, in the order of the layout. -/
def toList (row : Row) : List (CardField × Option Text) :=
  fields.map fun field => (field, row.toRecord.get field)

def isEmpty (row : Row) : Bool := row.toList.all fun entry => entry.2.isNone

@[simp] theorem ofRecord_toRecord (row : Row) : ofRecord row.toRecord = row := rfl

end Row

end CardListing
