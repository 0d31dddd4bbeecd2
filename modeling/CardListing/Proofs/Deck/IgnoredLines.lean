import CardListing.Proofs.ColumnGrammar
import CardListing.Proofs.Deck.IdleLines
import CardListing.Proofs.Deck.LineAccounts

/-! Lines that a listing can do without. A push that ignores its line leaves everything but the
count of lines as it was, and no push depends on that count but for the numbers it reports. So a
listing and what is left of it without such lines are grouped in step with each other.
-/

namespace CardListing

/-- The event with another line number, if it tells one. -/
def Event.renumber (number : Nat) : Event → Event
  | unrecognisedControl control => unrecognisedControl control
  | directive _ kind => directive number kind
  | unattached _ => unattached number

namespace Builder

-----------------------------------------------------------------------------------------
-- Single pushes
-----------------------------------------------------------------------------------------

/-- The line has no part in what is grouped: it is left aside, or its push reports that it is
dropped.
-/
def Ignores (builder : Builder) (line : Text) : Prop :=
  (LineKind.ofLine line).isAside = true ∨ dropped (builder.push line).2.events ≠ []

/-- A line that is ignored changes and completes nothing, by what a push makes of each kind. -/
theorem Ignores.unchanged {builder : Builder} {line : Text} (h : builder.Ignores line)
    : (builder.push line).1.current = builder.current
      ∧ (builder.push line).2.entries = [] := by
  rw [Ignores] at h
  have takes := builder.takes_push line
  generalize LineKind.ofLine line = kind at takes h
  generalize builder.push line = result at takes h ⊢
  cases takes with
  | blank | comment | dropped _ => exact ⟨rfl, rfl⟩
  | directive _ =>
      rcases h with aside | reported
      · cases aside
      · exact (reported (dropped_directive _ _)).elim
  | numbered =>
      rcases h with aside | reported
      · cases aside
      · exact (reported rfl).elim
  | continued _ _ =>
      rcases h with aside | reported
      · cases aside
      · exact (reported (filter_isReport_trace_notice? _ _)).elim

/-- The reports of a push tell no more of the lines before it than its own number and whether a
statement is open.
-/
theorem map_renumber_events_push (builder : Builder) (line : Text) (number : Nat)
    : (builder.push line).2.events.map (Event.renumber number)
      = (notice? line).toList ++ groupingEvents number builder.isOpen line := by
  have notices : (notice? line).toList.map (Event.renumber number) = (notice? line).toList := by
    cases reported : notice? line with
    | none => rfl
    | some event =>
        obtain ⟨_, control, rfl⟩ := exists_control_of_notice? reported
        rfl
  have groupings : (groupingEvents (builder.lineCount + 1) builder.isOpen line).map
      (Event.renumber number) = groupingEvents number builder.isOpen line := by
    rw [groupingEvents, groupingEvents]
    cases LineKind.ofLine line with
    | blank | comment | numbered | directive _ => rfl
    | unnumbered =>
        by_cases drops : builder.isOpen = false ∨ (Card.mk line).row.isEmpty = true
        · simp only [if_pos drops]
          rfl
        · simp only [if_neg drops]
          rfl
  rw [events_push, List.map_append, notices, groupings]

/-- Builders with the same open statement take in a line alike, whatever they have counted. -/
theorem push_congr {builder other : Builder} (same : other.current = builder.current)
    (line : Text)
    : (other.push line).1.current = (builder.push line).1.current
      ∧ (other.push line).2.entries = (builder.push line).2.entries
      ∧ (other.push line).2.events
        = (builder.push line).2.events.map (Event.renumber (other.lineCount + 1)) := by
  refine ⟨?_, ?_, ?_⟩
  · rw [current_push, current_push, current_step, current_step, same]
  · rw [entries_push, entries_push, entries_step, entries_step, finish, finish, same]
  · rw [map_renumber_events_push, events_push, isOpen, isOpen, same]

end Builder

namespace Deck

-----------------------------------------------------------------------------------------
-- Chosen lines taken out of a listing
-----------------------------------------------------------------------------------------

/-- The listing without the lines at the chosen positions, which count from 0. -/
def eraseChosen (chosen : Nat → Bool) (lines : List Text) : List Text :=
  (lines.zipIdx.filter fun entry => !chosen entry.2).map Prod.fst

theorem eraseChosen_append_singleton (chosen : Nat → Bool) (lines : List Text) (line : Text)
    : eraseChosen chosen (lines ++ [line])
      = eraseChosen chosen lines ++ if chosen lines.length then [] else [line] := by
  rw [eraseChosen, List.zipIdx_append, List.filter_append, List.map_append, Nat.zero_add]
  cases last : chosen lines.length <;> simp [eraseChosen, last]

/-- A line that is kept comes right after the kept ones of those before it. -/
theorem exists_eraseChosen_eq {chosen : Nat → Bool} {lines : List Text} {i : Nat} {line : Text}
    (found : lines[i]? = some line) (kept : chosen i = false)
    : ∃ later,
        eraseChosen chosen lines = eraseChosen chosen (lines.take i) ++ line :: later := by
  obtain ⟨inside, rfl⟩ := List.getElem?_eq_some_iff.mp found
  have parts : lines = lines.take i ++ lines[i] :: lines.drop (i + 1) := by
    rw [List.getElem_cons_drop, List.take_append_drop]
  have count : (lines.take i).length = i := by
    rw [List.length_take]
    omega
  refine ⟨((((lines.drop (i + 1)).zipIdx (i + 1)).filter
    fun entry => !chosen entry.2).map Prod.fst), ?_⟩
  have whole : lines.zipIdx
      = (lines.take i).zipIdx ++ (lines[i], i) :: (lines.drop (i + 1)).zipIdx (i + 1) := by
    conv => lhs; rw [parts]
    rw [List.zipIdx_append, Nat.zero_add, count, List.zipIdx_cons]
  rw [eraseChosen, whole, List.filter_append, List.map_append,
    List.filter_cons_of_pos (by simp [kept]), List.map_cons]
  rfl

/-- The line at the position is ignored when the whole listing is pushed: it is blank or a comment,
or its push reports that it is dropped.
-/
def IgnoredAt (lines : List Text) (i : Nat) : Prop :=
  ∃ line emission,
    lines[i]? = some line
    ∧ (Builder.emissions {} lines)[i]? = some emission
    ∧ (LineKind.ofLine line = .blank
      ∨ LineKind.ofLine line = .comment
      ∨ Builder.dropped emission.events ≠ [])

theorem IgnoredAt.ignores {lines : List Text} {i : Nat} {line : Text} (h : IgnoredAt lines i)
    (found : lines[i]? = some line)
    : (Builder.run {} (lines.take i)).Ignores line := by
  obtain ⟨same, emission, at_i, emitted, why⟩ := h
  obtain rfl : line = same := Option.some.inj (found.symm.trans at_i)
  rw [Builder.getElem?_emissions, found, Option.map_some] at emitted
  obtain rfl := Option.some.inj emitted
  rcases why with blank | comment | reported
  · exact .inl (by rw [blank]; rfl)
  · exact .inl (by rw [comment]; rfl)
  · exact .inr reported

-----------------------------------------------------------------------------------------
-- Both listings pushed
-----------------------------------------------------------------------------------------

/-- After any number of lines, those of them that are kept have left the same statement open and
have completed the same entries, by induction on the number.
-/
theorem run_eraseChosen_take {chosen : Nat → Bool} {lines : List Text}
    (ignored : ∀ i, chosen i = true → IgnoredAt lines i) (n : Nat)
    : (Builder.run {} (eraseChosen chosen (lines.take n))).current
        = (Builder.run {} (lines.take n)).current
      ∧ (Builder.emissions {} (eraseChosen chosen (lines.take n))).flatMap Emission.entries
        = (Builder.emissions {} (lines.take n)).flatMap Emission.entries := by
  induction n with
  | zero => exact ⟨rfl, rfl⟩
  | succ n ih =>
      obtain ⟨current, completed⟩ := ih
      cases found : lines[n]? with
      | none =>
          have past := List.getElem?_eq_none_iff.mp found
          rw [List.take_of_length_le (Nat.le_succ_of_le past)]
          rw [List.take_of_length_le past] at current completed
          exact ⟨current, completed⟩
      | some line =>
          have count : (lines.take n).length = n := by
            have inside := (List.getElem?_eq_some_iff.mp found).1
            rw [List.length_take]
            omega
          rw [List.take_add_one, found, Option.toList_some, eraseChosen_append_singleton, count,
            Builder.run_append_singleton, Builder.flatMap_entries_emissions_append_singleton]
          cases hc : chosen n with
          | true =>
              obtain ⟨kept, nothing⟩ := ((ignored n hc).ignores found).unchanged
              rw [if_pos rfl, List.append_nil, kept, nothing, List.append_nil]
              exact ⟨current, completed⟩
          | false =>
              obtain ⟨next, entries, _⟩ := Builder.push_congr current line
              rw [if_neg Bool.false_ne_true, Builder.run_append_singleton,
                Builder.flatMap_entries_emissions_append_singleton, next, entries, completed]
              exact ⟨rfl, rfl⟩

theorem ofLines_eraseChosen {chosen : Nat → Bool} {lines : List Text}
    (ignored : ∀ i, chosen i = true → IgnoredAt lines i)
    : ofLines (eraseChosen chosen lines) = ofLines lines := by
  obtain ⟨current, completed⟩ := run_eraseChosen_take ignored lines.length
  rw [List.take_length] at current completed
  rw [ofLines, ofLines, Builder.drain_eq, Builder.drain_eq, completed, Builder.finish,
    Builder.finish, current]

/-- A line has the same part in two listings where it stands at different positions: both pushes
complete the same entries, leave a statement open or not, and report the same, but for the number,
which in the second listing is that of the position there.
-/
structure SamePart (lines : List Text) (i : Nat) (others : List Text) (k : Nat) : Prop where
  line : ∃ line, lines[i]? = some line ∧ others[k]? = some line
  isOpen
    : (Builder.run {} (others.take (k + 1))).isOpen
      = (Builder.run {} (lines.take (i + 1))).isOpen
  emission
    : ∃ full short,
        (Builder.emissions {} lines)[i]? = some full
        ∧ (Builder.emissions {} others)[k]? = some short
        ∧ short.entries = full.entries
        ∧ short.events = full.events.map (Event.renumber (k + 1))

/-- Every line that is kept has the same part at its new position, which is the number of those
kept before it.
-/
theorem samePart_eraseChosen {chosen : Nat → Bool} {lines : List Text}
    (ignored : ∀ i, chosen i = true → IgnoredAt lines i) {i : Nat} (inside : i < lines.length)
    (kept : chosen i = false)
    : SamePart lines i (eraseChosen chosen lines) (eraseChosen chosen (lines.take i)).length := by
  have found : lines[i]? = some lines[i] := List.getElem?_eq_getElem inside
  obtain ⟨later, short⟩ := exists_eraseChosen_eq found kept
  have current := (run_eraseChosen_take ignored i).1
  generalize eraseChosen chosen (lines.take i) = before at short current
  generalize lines[i] = line at found short
  have shortFound : (eraseChosen chosen lines)[before.length]? = some line := by
    rw [short, List.getElem?_append_right (Nat.le_refl _), Nat.sub_self]
    rfl
  have shortBefore : (eraseChosen chosen lines).take before.length = before := by
    rw [short, List.take_left]
  have number : (Builder.run {} before).lineCount = before.length := by
    rw [Builder.lineCount_run]
    exact Nat.zero_add _
  obtain ⟨next, entries, events⟩ := Builder.push_congr current line
  rw [number] at events
  refine ⟨⟨line, found, shortFound⟩, ?_, ?_⟩
  · rw [List.take_add_one, shortBefore, shortFound, List.take_add_one, found,
      Option.toList_some, Builder.run_append_singleton, Builder.run_append_singleton,
      Builder.isOpen, Builder.isOpen, next]
  · refine ⟨_, _, ?_, ?_, entries, events⟩
    · rw [Builder.getElem?_emissions, found]
      rfl
    · rw [Builder.getElem?_emissions, shortFound, shortBefore]
      rfl

-----------------------------------------------------------------------------------------
-- Lines put into a listing
-----------------------------------------------------------------------------------------

/-- Blank lines, comments and unnumbered lines with blank operation columns are idle. -/
theorem idle_of_kind {line : Text}
    (h
      : LineKind.ofLine line = .blank
        ∨ LineKind.ofLine line = .comment
        ∨ LineKind.ofLine line = .unnumbered ∧ (Card.mk line).row.isEmpty = true)
    : (Reading.ofLine line).Idle := by
  rw [LineKind.ofLine] at h
  have reads := Reading.reads_ofLine line
  generalize Reading.ofLine line = reading at reads h ⊢
  cases reads with
  | blank _ | comment _ _ => exact ⟨rfl, rfl⟩
  | numbered _ _ | directive _ _ _ _ => simp [Reading.kind] at h
  | unnumbered _ _ _ =>
      apply Reading.idle_unnumbered
      simpa [Reading.kind] using h

/-- Idle lines put in one after the other have no part in a deck, by list induction. -/
theorem ofLines_append_append_of_idle (before after : List Text) {added : List Text}
    (idle : ∀ line ∈ added, (Reading.ofLine line).Idle)
    : ofLines (before ++ added ++ after) = ofLines (before ++ after) := by
  induction added with
  | nil => rw [List.append_nil]
  | cons line rest ih =>
      have first := ofLines_append_cons_of_idle before (rest ++ after) (idle line (by simp))
      rw [List.append_assoc, List.cons_append, first, ← List.append_assoc]
      exact ih fun other member => idle other (by simp [member])

/-- Ignored lines have no part in a deck. Whichever of them are taken out of a listing, the deck
stays, and each of the other lines completes, leaves open and reports the same as before, with the
number of its new position. Blank lines, comments and unnumbered lines with blank operation
columns have none wherever they are put in.
-/
theorem ignored_lines_have_no_part
    : (∀ chosen lines,
        (∀ i, chosen i = true → IgnoredAt lines i)
        → ofLines (eraseChosen chosen lines) = ofLines lines
          ∧ ∀ i,
            i < lines.length
            → chosen i = false
            → SamePart lines i (eraseChosen chosen lines)
                (eraseChosen chosen (lines.take i)).length)
      ∧ ∀ before added after,
        (∀ line ∈ added,
          LineKind.ofLine line = .blank
          ∨ LineKind.ofLine line = .comment
          ∨ LineKind.ofLine line = .unnumbered ∧ (Card.mk line).row.isEmpty = true)
        → ofLines (before ++ added ++ after) = ofLines (before ++ after) := by
  constructor
  · intro chosen lines ignored
    refine ⟨ofLines_eraseChosen ignored, ?_⟩
    intro i inside kept
    exact samePart_eraseChosen ignored inside kept
  · intro before added after kinds
    exact ofLines_append_append_of_idle before after fun line member =>
      idle_of_kind (kinds line member)

/-- A row before any statement, a comment and a label between a statement and its continuation
are taken out; the row after the title, which is ignored as well, is kept.
-/
theorem ignored_lines_have_no_part_three_erased
    : (∀ i,
        [0, 2, 3].contains i = true
        → IgnoredAt
            [List.replicate 19 ' ' ++ ['A'], [' ', '1'], ['#'], List.replicate 8 ' ' ++ ['X'],
              List.replicate 19 ' ' ++ ['B'], ['L'], List.replicate 19 ' ' ++ ['C']] i)
      ∧ ofLines [[' ', '1'], List.replicate 19 ' ' ++ ['B'], ['L'],
          List.replicate 19 ' ' ++ ['C']]
        = ofLines
          [List.replicate 19 ' ' ++ ['A'], [' ', '1'], ['#'], List.replicate 8 ' ' ++ ['X'],
            List.replicate 19 ' ' ++ ['B'], ['L'], List.replicate 19 ' ' ++ ['C']] := by
  have ignored : ∀ i,
      [0, 2, 3].contains i = true
      → IgnoredAt
          [List.replicate 19 ' ' ++ ['A'], [' ', '1'], ['#'], List.replicate 8 ' ' ++ ['X'],
            List.replicate 19 ' ' ++ ['B'], ['L'], List.replicate 19 ' ' ++ ['C']] i := by
    intro i member
    have places : i = 0 ∨ i = 2 ∨ i = 3 := by simpa using member
    rcases places with rfl | rfl | rfl
    · exact ⟨_, _, rfl, rfl, by decide +kernel⟩
    · exact ⟨_, _, rfl, rfl, by decide +kernel⟩
    · exact ⟨_, _, rfl, rfl, by decide +kernel⟩
  exact ⟨ignored, (ignored_lines_have_no_part.1 _ _ ignored).1⟩

end Deck

end CardListing
