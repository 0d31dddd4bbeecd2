import CardListing.Reading

/-!
The entries of a deck: statements, each a numbered line with the rows that continue it,
and directives.
-/

namespace CardListing

/-- A numbered line and the continuation rows that follow it. -/
structure Statement where
  primary : Record
  /-- The rows of its continuation lines, in the order of the listing. -/
  continuations : List Row
deriving DecidableEq, Repr

namespace Statement

/-- The line number that identifies the statement. -/
def lognum (statement : Statement) : Text := statement.primary.lognum.getD []

/-- All rows, that of the numbered line first. -/
def rows (statement : Statement) : List Row :=
  Row.ofRecord statement.primary :: statement.continuations

/-- The number of listing lines of the statement. -/
def rowCount (statement : Statement) : Nat := 1 + statement.continuations.length

/-- The statement with more rows after its last one. -/
def extend (statement : Statement) (rows : List Row) : Statement :=
  { statement with continuations := statement.continuations ++ rows }

@[simp] theorem length_rows (statement : Statement)
    : statement.rows.length = statement.rowCount := by
  simp [rows, rowCount, Nat.add_comm]

@[simp] theorem extend_nil (statement : Statement) : statement.extend [] = statement := by
  simp [extend]

@[simp] theorem extend_extend (statement : Statement) (first second : List Row)
    : (statement.extend first).extend second = statement.extend (first ++ second) := by
  simp [extend]

end Statement

inductive Entry where
  | statement (statement : Statement)
  | directive (directive : Directive)
deriving DecidableEq, Repr

namespace Entry

def statement? : Entry → Option Statement
  | statement s => some s
  | directive _ => none

def directive? : Entry → Option Directive
  | statement _ => none
  | directive d => some d

end Entry

end CardListing
