import CardListing.Deck.Basic

/-!
The entries of a listing told without a state. Every line that is a directive or numbered
starts one entry, and the continuation rows of a numbered line are those found before the
next such line.
-/

namespace CardListing

namespace Deck

/-- The continuation rows before the first line that starts an entry. -/
def leadRows (lines : List Text) : List Row :=
  ((lines.map Reading.ofLine).takeWhile fun reading => !reading.isHead).filterMap
    Reading.continuation?

/-- The entries of a listing, one for each line that starts one. -/
def segments : List Text → List Entry
  | [] => []
  | line :: rest =>
    match Reading.ofLine line with
    | .directive d => .directive d :: segments rest
    | .numbered record => .statement ⟨record, leadRows rest⟩ :: segments rest
    | _ => segments rest

end Deck

end CardListing
