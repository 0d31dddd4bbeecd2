import CardListing.Text.Basic

/-!
Splitting a text into lines. A line ends at a line feed, or at a carriage return and the
line feed after it; a carriage return anywhere else is part of its line. What follows the
last line end is a line of its own unless it is empty.
-/

namespace CardListing

namespace Text

/-- The lines of a text, without their line ends. -/
def lines : Text → List Text
  | [] => []
  | '\n' :: rest => [] :: lines rest
  | '\r' :: '\n' :: rest => [] :: lines rest
  | c :: rest =>
    match lines rest with
    | [] => [[c]]
    | line :: later => (c :: line) :: later

@[simp] theorem lines_nil : lines [] = [] := by rw [lines]

end Text

end CardListing
