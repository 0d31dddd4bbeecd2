import CardListing.Record
import CardListing.Text.Alphabetic

/-!
Directive lines. A single letter in one of the two control columns of a card can mark the
line as a title, a remark or a page header. The rest of the line is then its text.
-/

namespace CardListing

inductive Directive.Kind where
  | title
  | remark
  | pageHeader
deriving DecidableEq, Repr

namespace Directive.Kind

def control : Directive.Kind → Char
  | title => 'L'
  | remark => 'R'
  | pageHeader => 'P'

/-- The kind announced by a control letter. Only capitals are recognised. -/
def ofControl? : Char → Option Directive.Kind
  | 'L' => some title
  | 'R' => some remark
  | 'P' => some pageHeader
  | _ => none

def name : Directive.Kind → String
  | title => "Title"
  | remark => "Remark"
  | pageHeader => "PageHeader"

@[simp] theorem ofControl?_control (kind : Directive.Kind)
    : ofControl? kind.control = some kind := by
  cases kind <;> rfl

/-- A letter announces a kind exactly when it is that kind's own. -/
theorem ofControl?_eq_some_iff (c : Char) (kind : Directive.Kind)
    : ofControl? c = some kind ↔ c = kind.control := by
  constructor
  · intro h
    unfold ofControl? at h
    split at h
    · cases h
      rfl
    · cases h
      rfl
    · cases h
      rfl
    · cases h
  · rintro rfl
    exact ofControl?_control kind

end Directive.Kind

/-- The control character that is the content of a column: the one character it holds, if
that is alphabetic. -/
def controlChar? : Option Text → Option Char
  | some [c] => if isAlphabetic c then some c else none
  | _ => none

/-- A control character and the column it stands in. -/
structure Control where
  char : Char
  field : CardField
deriving DecidableEq, Repr

/-- The control character of a record: there is one if exactly one of the two control
columns holds a control character. -/
def Record.control? (record : Record) : Option Control :=
  match controlChar? record.column1, controlChar? record.column8 with
  | some c, none => some ⟨c, .column1⟩
  | none, some c => some ⟨c, .column8⟩
  | _, _ => none

/-- A title, remark or page header. -/
structure Directive where
  kind : Directive.Kind
  /-- The line after the control column, without trailing white space. -/
  text : Text
deriving DecidableEq, Repr

/-- The directive that a control character makes of its line, if its letter announces a
kind. The text runs to the end of the line, past the layout. -/
def Control.directive? (control : Control) (line : Text) : Option Directive :=
  (Directive.Kind.ofControl? control.char).map fun kind =>
    ⟨kind, Text.trimEnd (line.drop control.field.lastColumn)⟩

/-- A control character makes the directive of the kind it announces, with the rest of the line
as its text. -/
theorem Control.directive?_eq_some_iff (control : Control) (line : Text) (d : Directive)
    : control.directive? line = some d
      ↔ control.char = d.kind.control
        ∧ Text.trimEnd (line.drop control.field.lastColumn) = d.text := by
  rw [directive?, Option.map_eq_some_iff]
  constructor
  · rintro ⟨kind, announced, rfl⟩
    exact ⟨(Directive.Kind.ofControl?_eq_some_iff _ _).mp announced, rfl⟩
  · rintro ⟨announced, text⟩
    refine ⟨d.kind, (Directive.Kind.ofControl?_eq_some_iff _ _).mpr announced, ?_⟩
    rw [text]

theorem Control.directive?_eq_none_iff (control : Control) (line : Text)
    : control.directive? line = none
      ↔ ∀ kind : Directive.Kind, control.char ≠ kind.control := by
  rw [directive?, Option.map_eq_none_iff, Option.eq_none_iff_forall_ne_some]
  simp only [ne_eq, Directive.Kind.ofControl?_eq_some_iff]

end CardListing
