import CardListing.Proofs.Deck.IdleLines
import CardListing.Proofs.Text.LineEnds
import CardListing.Proofs.TrailingWhiteSpace

/-! A deck does not depend on how its lines were written into a text. White space at the end
of a line has no part in how it is read, a line that it alone is made of brings nothing, and
so neither it nor the choice of a line end ever shows.
-/

namespace CardListing

namespace Deck

/-- White space at the ends of its lines has no part in a deck. -/
theorem ofLines_map_trimEnd (lines : List Text)
    : ofLines (lines.map Text.trimEnd) = ofLines lines := by
  refine ofLines_congr (List.forall₂_map_left_iff.mpr (List.forall₂_same.mpr fun line _ => ?_))
  rw [Reading.ofLine_trimEnd]
  exact .refl _

/-- The deck of a text is that of the lines written into it, whatever white space was added
to each of them, whatever line end each was given, and whether or not the last was given one.
-/
theorem ofText_eq_of_writes {lines : List Text} {text : Text} (h : Text.Writes lines text)
    : ofText text = ofLines lines := by
  have missing : ofLines ((Text.lines text).map Text.trimEnd ++ [[]])
      = ofLines ((Text.lines text).map Text.trimEnd) := by
    have blank : (Reading.ofLine []).Idle := Reading.idle_blank
    rw [ofLines_append_cons_of_idle _ [] blank, List.append_nil]
  rw [ofText, ← ofLines_map_trimEnd lines, ← ofLines_map_trimEnd (Text.lines text)]
  rcases h.map_trimEnd_lines with same | short
  · rw [same]
  · rw [← short, missing]

/-- A numbered line that ends in a carriage return, an empty line and a title with a line
separator in it, of which the last was given no line end.
-/
theorem ofText_eq_of_writes_unended
    : Text.Writes [[' ', '1', '\r'], [], ['L', '\u2028', 'T']]
        ([' ', '1', '\r'] ++ ['\u3000'] ++ Text.LineEnd.lineFeed.text
          ++ ([] ++ ['\t'] ++ Text.LineEnd.returnLineFeed.text
            ++ (['L', '\u2028', 'T'] ++ ['\r'])))
      ∧ ofText [' ', '1', '\r', '\u3000', '\n', '\t', '\r', '\n', 'L', '\u2028', 'T', '\r']
        = ofLines [[' ', '1', '\r'], [], ['L', '\u2028', 'T']] := by
  have written : Text.Writes [[' ', '1', '\r'], [], ['L', '\u2028', 'T']]
      ([' ', '1', '\r'] ++ ['\u3000'] ++ Text.LineEnd.lineFeed.text
        ++ ([] ++ ['\t'] ++ Text.LineEnd.returnLineFeed.text
          ++ (['L', '\u2028', 'T'] ++ ['\r']))) := by
    refine .ended .lineFeed (by decide) (by decide) (by decide) ?_
    refine .ended .returnLineFeed (by decide) (by decide) (by decide) ?_
    exact .unended (by decide) (by decide) (by decide)
  exact ⟨written, ofText_eq_of_writes written⟩

end Deck

end CardListing
