import CardListing.Deck.Basic
import CardListing.Json.Encoder

/-!
Decks as they are declared. The tag of an entry names its type; columns are optional.
-/

namespace CardListing

/-- Columns by the names of their fields. -/
def Declared.ofContents (contents : List (CardField × Option Text)) : List (String × Declared) :=
  contents.map fun (field, content) => (field.name, ofContent content)

def Record.declared (record : Record) : Declared :=
  .record (Declared.ofContents record.toList)

def Row.declared (row : Row) : Declared := .record (Declared.ofContents row.toList)

def Statement.declaredFields (s : Statement) : List (String × Declared) :=
  [("primary", s.primary.declared), ("continuations", .list (s.continuations.map Row.declared))]

def Directive.declaredFields (d : Directive) : List (String × Declared) :=
  [("kind", .choice d.kind.name), ("text", .text d.text)]

def Entry.declared : Entry → Declared
  | statement s => .tagged "type" "statement" s.declaredFields
  | directive d => .tagged "type" "directive" d.declaredFields

def Deck.declared (deck : Deck) : Declared :=
  .record [("entries", .list (deck.entries.map Entry.declared))]

/-- The JSON value of a deck. -/
def Deck.toJson (deck : Deck) : Json := deck.declared.toJson

end CardListing
