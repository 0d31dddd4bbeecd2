import CardListing.Proofs.Text.Trimming
import CardListing.Text.Lines

/-! Lines come back from the text they were written into, but for white space at their ends:
a carriage return before a line feed belongs to the line end, even if it was written as part
of the line, and an empty last line without a line end leaves no trace.
-/

namespace CardListing

namespace Text

/-- What can end a line of a text. -/
inductive LineEnd where
  | lineFeed
  | returnLineFeed
deriving DecidableEq, Repr

def LineEnd.text : LineEnd → Text
  | lineFeed => ['\n']
  | returnLineFeed => ['\r', '\n']

/-- The text holds the lines in order. Every line is followed by some white space and a line
end of its own choice, and the last line may lack the line end.
-/
inductive Writes : List Text → Text → Prop
  | nil : Writes [] []
  | unended {line white : Text} (plain : '\n' ∉ line) (blank : white.isBlank = true)
    (unbroken : '\n' ∉ white)
    : Writes [line] (line ++ white)
  | ended {line white : Text} (ending : LineEnd) {lines : List Text} {text : Text}
    (plain : '\n' ∉ line) (blank : white.isBlank = true) (unbroken : '\n' ∉ white)
    (rest : Writes lines text)
    : Writes (line :: lines) (line ++ white ++ ending.text ++ text)

-----------------------------------------------------------------------------------------
-- Single lines
-----------------------------------------------------------------------------------------

@[simp] theorem lines_lineFeed (rest : Text) : lines ('\n' :: rest) = [] :: lines rest := by
  rw [lines]

@[simp] theorem lines_returnLineFeed (rest : Text)
    : lines ('\r' :: '\n' :: rest) = [] :: lines rest := by
  rw [lines]

/-- A character that starts no line end stands at the start of the first line. -/
theorem lines_cons_of_lines_eq {c : Char} {rest line : Text} {later : List Text}
    (feed : c ≠ '\n') (pair : c = '\r' → rest.head? ≠ some '\n')
    (found : lines rest = line :: later)
    : lines (c :: rest) = (c :: line) :: later := by
  rw [lines, found]
  · exact feed
  · intro rest' returned he
    subst he
    exact pair returned rfl

/-- A text without a line feed is one line, unless it is empty, by list induction. -/
theorem lines_of_not_mem {body : Text} (h : '\n' ∉ body) (hne : body ≠ [])
    : lines body = [body] := by
  induction body with
  | nil => exact (hne rfl).elim
  | cons c rest ih =>
      obtain ⟨feed, later⟩ := not_or.mp (mt List.mem_cons.mpr h)
      cases rest with
      | nil =>
          rw [lines, lines_nil]
          · exact fun he => feed he.symm
          · intros
            contradiction
      | cons d rest =>
          refine lines_cons_of_lines_eq (Ne.symm feed) ?_ (ih later (List.cons_ne_nil d rest))
          intro _ he
          exact later (List.mem_of_head? he)

/-- A line feed ends the line before it, which may lose a carriage return at its end, by list
induction.
-/
theorem exists_lines_append_lineFeed {body : Text} (h : '\n' ∉ body) (rest : Text)
    : ∃ line, trimEnd line = trimEnd body ∧ lines (body ++ '\n' :: rest) = line :: lines rest := by
  induction body with
  | nil => exact ⟨[], rfl, lines_lineFeed rest⟩
  | cons c body ih =>
      obtain ⟨feed, later⟩ := not_or.mp (mt List.mem_cons.mpr h)
      by_cases hr : c = '\r' ∧ body = []
      · obtain ⟨rfl, rfl⟩ := hr
        exact ⟨[], rfl, lines_returnLineFeed rest⟩
      · obtain ⟨line, same, found⟩ := ih later
        refine ⟨c :: line, ?_, lines_cons_of_lines_eq (Ne.symm feed) ?_ found⟩
        · rw [trimEnd_cons, trimEnd_cons, same]
        · -- The line feed follows the carriage return at once only if nothing is between.
          intro returned he
          cases body with
          | nil => exact hr ⟨returned, rfl⟩
          | cons d body => exact later (List.mem_of_head? he)

/-- Either line end ends the line before it and takes nothing but white space from it. -/
theorem exists_lines_append_end {body : Text} (h : '\n' ∉ body) (ending : LineEnd)
    (rest : Text)
    : ∃ line,
        trimEnd line = trimEnd body
        ∧ lines (body ++ ending.text ++ rest) = line :: lines rest := by
  cases ending with
  | lineFeed =>
      obtain ⟨line, same, found⟩ := exists_lines_append_lineFeed h rest
      exact ⟨line, same, by simpa [LineEnd.text] using found⟩
  | returnLineFeed =>
      have plain : '\n' ∉ body ++ ['\r'] := by simp [h]
      obtain ⟨line, same, found⟩ := exists_lines_append_lineFeed plain rest
      refine ⟨line, ?_, by simpa [LineEnd.text] using found⟩
      rw [same, trimEnd_append_of_isBlank _ _ rfl]

-----------------------------------------------------------------------------------------
-- Whole texts
-----------------------------------------------------------------------------------------

/-- The lines of a text are those written into it up to white space at their ends; only an
empty last line can be missing. By induction over the way the text was written.
-/
theorem Writes.map_trimEnd_lines {written : List Text} {text : Text} (h : Writes written text)
    : (lines text).map trimEnd = written.map trimEnd
      ∨ (lines text).map trimEnd ++ [[]] = written.map trimEnd := by
  induction h with
  | nil => exact .inl (by rw [lines_nil])
  | @unended line white plain blank unbroken =>
      have same : trimEnd (line ++ white) = trimEnd line :=
        trimEnd_append_of_isBlank line white blank
      by_cases hne : line ++ white = []
      · refine .inr ?_
        rw [hne] at same
        simp [hne, ← same]
      · refine .inl ?_
        rw [lines_of_not_mem (by simp [plain, unbroken]) hne]
        simp [same]
  | @ended line white ending _ _ plain blank unbroken _ ih =>
      have body : '\n' ∉ line ++ white := by simp [plain, unbroken]
      obtain ⟨read, same, found⟩ := exists_lines_append_end body ending _
      have first : trimEnd read = trimEnd line := by
        rw [same, trimEnd_append_of_isBlank line white blank]
      rw [found, List.map_cons, List.map_cons, first, List.cons_append]
      exact ih.imp (congrArg _) (congrArg _)

end Text

end CardListing
