import CardListing.Deck.Builder
import CardListing.Text.Lines

/-!
Decks: the statements and directives of a whole listing, in the order of its lines.
-/

namespace CardListing

structure Deck where
  entries : List Entry
deriving DecidableEq, Repr

namespace Deck

def ofLines (lines : List Text) : Deck := ⟨Builder.drain {} lines⟩

/-- The deck of a text, line by line. -/
def ofText (text : Text) : Deck := ofLines (Text.lines text)

def size (deck : Deck) : Nat := deck.entries.length

def isEmpty (deck : Deck) : Bool := deck.entries.isEmpty

def statements (deck : Deck) : List Statement := deck.entries.filterMap Entry.statement?

def directives (deck : Deck) : List Directive := deck.entries.filterMap Entry.directive?

/-- The first statement with the given line number. -/
def statement? (deck : Deck) (lognum : Text) : Option Statement :=
  deck.statements.find? fun statement => statement.lognum == lognum

end Deck

end CardListing
