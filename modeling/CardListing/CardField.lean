/-!
The layout of a listing line. A line is cut into ten fields, each a fixed range of
columns; columns count from 1. The fields follow one another without gaps and cover
columns 1 to `lineWidth`.
-/

namespace CardListing

/-- The number of fields of a listing line. -/
def fieldCount : Nat := 10

/-- A field of a listing line. The first and third hold control characters and are named
by their column. -/
inductive CardField where
  | column1
  | lognum
  | column8
  | label
  | operation
  | operand1
  | operand2
  | operand3
  | misc
  | remarks
deriving DecidableEq, Repr

namespace CardField

/-- All fields, in the order of their columns. -/
def all : List CardField :=
  [column1, lognum, column8, label, operation, operand1, operand2, operand3, misc, remarks]

def name : CardField → String
  | column1 => "column1"
  | lognum => "lognum"
  | column8 => "column8"
  | label => "label"
  | operation => "operation"
  | operand1 => "operand1"
  | operand2 => "operand2"
  | operand3 => "operand3"
  | misc => "misc"
  | remarks => "remarks"

def ofName? (name : String) : Option CardField := all.find? fun field => field.name = name

/-- The position of the field in the layout, from 0. -/
def index : CardField → Nat
  | column1 => 0
  | lognum => 1
  | column8 => 2
  | label => 3
  | operation => 4
  | operand1 => 5
  | operand2 => 6
  | operand3 => 7
  | misc => 8
  | remarks => 9

theorem index_lt (field : CardField) : field.index < fieldCount := by cases field <;> decide

/-- The place of the field in an array of all of them. -/
def place (field : CardField) : Fin fieldCount := ⟨field.index, field.index_lt⟩

/-- The fields as an array, in the order of their columns. -/
def layout : Vector CardField fieldCount := ⟨all.toArray, rfl⟩

/-- A field stands in the layout at its own place. -/
@[simp] theorem get_layout_place (field : CardField) : layout.get field.place = field := by
  cases field <;> rfl

/-- What stands at a place of the layout has that place. -/
@[simp] theorem place_get_layout : ∀ place, (layout.get place).place = place := by decide

def firstColumn : CardField → Nat
  | column1 => 1
  | lognum => 2
  | column8 => 8
  | label => 9
  | operation => 20
  | operand1 => 33
  | operand2 => 47
  | operand3 => 61
  | misc => 76
  | remarks => 81

def width : CardField → Nat
  | column1 => 1
  | lognum => 6
  | column8 => 1
  | label => 11
  | operation => 13
  | operand1 => 14
  | operand2 => 14
  | operand3 => 15
  | misc => 5
  | remarks => 40

def lastColumn (field : CardField) : Nat := field.firstColumn + field.width - 1

/-- The number of columns before the field. -/
def offset (field : CardField) : Nat := field.firstColumn - 1

/-- Fields are ordered as they stand on the line. -/
instance : Ord CardField := ⟨fun x y => compare x.index y.index⟩

theorem mem_all (field : CardField) : field ∈ all := by cases field <;> decide

theorem getElem?_all : ∀ place, all[place.val]? = some (layout.get place) := by decide

/-- A field is found again by its name. -/
theorem ofName?_name (field : CardField) : ofName? field.name = some field := by
  cases field <;> decide

theorem one_le_firstColumn (field : CardField) : 1 ≤ field.firstColumn := by
  cases field <;> decide

theorem one_le_width (field : CardField) : 1 ≤ field.width := by
  cases field <;> decide

end CardField

/-- The width of the layout; text past this column belongs to no field. -/
def lineWidth : Nat := 120

/-- Every field ends within the layout. -/
theorem CardField.lastColumn_le (field : CardField) : field.lastColumn ≤ lineWidth := by
  cases field <;> decide

end CardListing
