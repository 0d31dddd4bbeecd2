import CardListing.Directive

/-!
Events reported while lines are read and grouped. Together with the entries they account
for every line that is neither blank nor a comment.
-/

namespace CardListing

/-- How loud an event is reported. -/
inductive EventLevel where
  | debug
  | trace
deriving DecidableEq, Repr

def EventLevel.name : EventLevel → String
  | debug => "DEBUG"
  | trace => "TRACE"

/-- What can be reported about a line. Lines are numbered from 1. -/
inductive Event where
  /-- A lone control character announces no directive. -/
  | unrecognisedControl (control : Control)
  /-- The line is a directive. -/
  | directive (lineNumber : Nat) (kind : Directive.Kind)
  /-- The line continues no statement and is dropped. -/
  | unattached (lineNumber : Nat)
deriving DecidableEq, Repr

namespace Event

def level : Event → EventLevel
  | unrecognisedControl _ => .debug
  | directive _ _ => .trace
  | unattached _ => .trace

def message : Event → String
  | unrecognisedControl _ => "unrecognised control character, treating line as content"
  | directive _ _ => "directive"
  | unattached _ => "ignoring unattached line"

end Event

end CardListing
