import CardListing.Text.CharRange

/-!
The Unicode property `White_Space`, which decides what is trimmed from a field and
which lines are blank.
-/

namespace CardListing

/-- Code points with the property `White_Space`. -/
def whiteRanges : CharRanges := [
  (0x9, 0xD), (0x20, 0x20), (0x85, 0x85), (0xA0, 0xA0),
  (0x1680, 0x1680), (0x2000, 0x200A), (0x2028, 0x2029), (0x202F, 0x202F),
  (0x205F, 0x205F), (0x3000, 0x3000)]

/-- Whether a character is white space. -/
def isWhite (c : Char) : Bool := whiteRanges.contains c

end CardListing
