import CardListing.Numeral
import CardListing.Text.Unprintable

/-!
Texts quoted for a message. Quotes, backslashes and the common controls are escaped by a
letter; what would not show or would merge with its neighbour is shown by code point.
-/

namespace CardListing

namespace Text

/-- A character of a quoted text. -/
def quoteChar (c : Char) : Text :=
  if c = '"' then ['\\', '"']
  else if c = '\\' then ['\\', '\\']
  else if c = '\x00' then ['\\', '0']
  else if c = '\t' then ['\\', 't']
  else if c = '\n' then ['\\', 'n']
  else if c = '\r' then ['\\', 'r']
  else if isUnprintable c then
    ['\\', 'u', '\x7b'] ++ Nat.toDigits 16 c.toNat ++ ['\x7d']
  else [c]

/-- The text between quotes. -/
def quoted (text : Text) : Text := '"' :: text.flatMap quoteChar ++ ['"']

end Text

end CardListing
