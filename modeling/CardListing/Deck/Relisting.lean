import CardListing.Deck.Basic

/-!
Listing a deck again. Every entry is written in the layout: statements with their fields
at the left of their columns, continuation rows with the columns before the operation
blank, directives with their letter in the second control column.
-/

namespace CardListing

/-- The fields of a record at the left of their columns. -/
def Record.relist (record : Record) : Text :=
  record.toList.flatMap fun (field, text) => Text.justify field.width (text.getD [])

/-- A row at the left of its columns, after as many blanks as come before the operation. -/
def Row.relist (row : Row) : Text :=
  Text.justify CardField.operation.offset []
    ++ row.toList.flatMap fun (field, text) => Text.justify field.width (text.getD [])

/-- A directive with its letter in the second control column. -/
def Directive.relist (directive : Directive) : Text :=
  Text.justify CardField.column8.offset [] ++ directive.kind.control :: directive.text

def Entry.relist : Entry → List Text
  | statement s => s.primary.relist :: s.continuations.map Row.relist
  | directive d => [d.relist]

def Deck.relist (deck : Deck) : List Text := deck.entries.flatMap Entry.relist

end CardListing
