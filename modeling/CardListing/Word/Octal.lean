import CardListing.Numeral
import CardListing.Word.Basic

/-!
Words in octal. A group of 12 bits is four octal digits, so the groups of a word can be
read off its value written with sixteen digits.
-/

namespace CardListing

namespace Word

/-- The octal digits of one group, four of them. -/
def octalGroup (word : Word) (group : WordGroup) : Text :=
  (octalDigits (word.part group).toNat).leftpad 4 '0'

/-- The groups in octal, separated by blanks. -/
def display (word : Word) : Text :=
  [' '].intercalate (WordGroup.all.map word.octalGroup)

def octal (word : Word) (style : NumeralStyle) : Text := style.octal word.value.toNat

inductive Form where
  | grouped
  | octal
deriving DecidableEq, Repr

/-- Writes a word in a form. The grouped form has a layout of its own and takes nothing from
the style. -/
def write (word : Word) (style : NumeralStyle) : Form → Text
  | .grouped => word.display
  | .octal => word.octal style

/-- The groups in decimal, with their names. -/
def describe (word : Word) : Text :=
  let group (g : WordGroup) : Text :=
    g.name.toList ++ ": ".toList ++ decimalDigits (word.part g).toNat
  "Word \x7b ".toList ++ ", ".toList.intercalate (WordGroup.all.map group) ++ " \x7d".toList

end Word

end CardListing
