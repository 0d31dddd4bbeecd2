import CardListing.Card
import CardListing.Event

/-!
How a single line is read, whatever stands around it. A line is blank or a comment without
regard to the layout. Of the others, a line with text in the lognum columns is numbered, and
only a line without can be a directive.
-/

namespace CardListing

inductive LineKind where
  | blank
  | comment
  | directive (kind : Directive.Kind)
  | numbered
  | unnumbered
deriving DecidableEq, Repr

/-- A line as read: its kind with what grouping needs of it. -/
inductive Reading where
  | blank
  | comment
  | directive (directive : Directive)
  | numbered (record : Record)
  | unnumbered (row : Row)
deriving DecidableEq, Repr

namespace Reading

def ofLine (line : Text) : Reading :=
  if line.isBlank then
    .blank
  else if line.head? = some '#' then
    .comment
  else
    let record := (Card.mk line).record
    if record.lognum.isSome then
      .numbered record
    else
      match record.control?.bind fun control => control.directive? line with
      | some found => .directive found
      | none => .unnumbered (Row.ofRecord record)

def kind : Reading → LineKind
  | blank => .blank
  | comment => .comment
  | directive d => .directive d.kind
  | numbered _ => .numbered
  | unnumbered _ => .unnumbered

/-- Whether the line starts an entry: it is numbered or a directive. -/
def isHead : Reading → Bool
  | directive _ => true
  | numbered _ => true
  | _ => false

/-- The row that the line offers to an open statement: that of an unnumbered line with
something in its operation columns. -/
def continuation? : Reading → Option Row
  | unnumbered row => if row.isEmpty then none else some row
  | _ => none

end Reading

/-- The kind of a line. -/
def LineKind.ofLine (line : Text) : LineKind := (Reading.ofLine line).kind

/-- What reading a line reports: an unnumbered line may hold a control character that
announces nothing. -/
def notice? (line : Text) : Option Event :=
  match LineKind.ofLine line with
  | .unnumbered => (Card.mk line).record.control?.map Event.unrecognisedControl
  | _ => none

end CardListing
