import CardListing.Text.Basic

/-!
Numerals in a field of a given width. A numeral is a sign, a radix mark and digits; it is
brought to the width by padding around it or by zeros between the mark and the digits, and
is never cut.
-/

namespace CardListing

/-- Where a padded numeral stands in its field. -/
inductive Alignment where
  | left
  | right
  | center
deriving DecidableEq, Repr

structure NumeralStyle where
  /-- The least width, sign and mark included. -/
  width : Nat := 0
  alignment : Alignment := .right
  /-- What fills the field around it. -/
  fill : Char := ' '
  plus : Bool := false
  mark : Bool := false
  /-- Whether zeros before the digits fill the field, whatever alignment and fill say. -/
  zeros : Bool := false
deriving DecidableEq, Repr

/-- A text in the middle of as many fill characters as it leaves free in a field; an odd
one goes to the right. -/
def centered (width : Nat) (fill : Char) (text : Text) : Text :=
  let free := width - text.length
  List.replicate (free / 2) fill ++ text ++ List.replicate (free - free / 2) fill

def Alignment.pad : Alignment → Nat → Char → Text → Text
  | left, width, fill, text => text.rightpad width fill
  | right, width, fill, text => text.leftpad width fill
  | center, width, fill, text => centered width fill text

namespace NumeralStyle

/-- What stands before the digits. -/
def lead (style : NumeralStyle) (mark : Text) : Text :=
  (if style.plus then ['+'] else []) ++ (if style.mark then mark else [])

/-- Writes digits of a radix with the given mark. -/
def write (style : NumeralStyle) (mark digits : Text) : Text :=
  let lead := style.lead mark
  if style.zeros then
    lead ++ digits.leftpad (style.width - lead.length) '0'
  else
    style.alignment.pad style.width style.fill (lead ++ digits)

end NumeralStyle

/-- The octal digits of a number, without leading zeros; zero has one digit. -/
def octalDigits (n : Nat) : Text := Nat.toDigits 8 n

/-- The decimal digits of a number, without leading zeros; zero has one digit. -/
def decimalDigits (n : Nat) : Text := Nat.toDigits 10 n

/-- A number in octal, marked `0o` where the style asks for a mark. -/
def NumeralStyle.octal (style : NumeralStyle) (n : Nat) : Text :=
  style.write ['0', 'o'] (octalDigits n)

/-- Centring neither cuts a text nor leaves its field open. -/
@[simp] theorem length_centered (width : Nat) (fill : Char) (text : Text)
    : (centered width fill text).length = max width text.length := by
  simp [centered]
  omega

/-- A padded text fills its field or is as it was. -/
@[simp] theorem Alignment.length_pad (alignment : Alignment) (width : Nat) (fill : Char)
    (text : Text)
    : (alignment.pad width fill text).length = max width text.length := by
  cases alignment <;> simp [pad, List.leftpad, List.rightpad] <;> omega

end CardListing
