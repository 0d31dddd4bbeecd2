import CardListing.Proofs.Deck.BuilderInvariant
import CardListing.Proofs.Deck.Concatenation
import CardListing.Proofs.TrailingWhiteSpace

/-! Statements looked up by their line number. What is found is the statement that the first
line of that number opens, and lines added to the listing can only give it more rows, as long
as no later head has ended it.
-/

namespace CardListing

/-- The line is numbered with the key: it counts as a numbered line, and columns 2 to 7 hold
the key between white space.
-/
def NumberedAs (key line : Text) : Prop :=
  LineKind.ofLine line = .numbered ∧ Text.trim ((line.drop 1).take 6) = key

instance (key line : Text) : Decidable (NumberedAs key line) :=
  inferInstanceAs (Decidable (_ ∧ _))

/-- Whether the entry is a statement with the key as its line number. -/
def Entry.isKeyed (key : Text) (entry : Entry) : Bool :=
  entry.statement?.any fun s => s.lognum == key

-----------------------------------------------------------------------------------------
-- Line numbers of single lines
-----------------------------------------------------------------------------------------

theorem Text.getD_content? (text : Text) : (content? text).getD [] = trim text := by
  rw [content?]
  cases trim text <;> rfl

/-- The line number of a line is what its columns hold between white space, nothing if they
are blank.
-/
theorem Card.getD_lognum_record (line : Text)
    : (Card.mk line).record.lognum.getD [] = Text.trim ((line.drop 1).take 6) := by
  have columns : (Card.mk line).record.lognum = Text.content? ((line.drop 1).take 6) :=
    ((Card.mk line).get_record .lognum).trans ((Card.mk line).content?_eq_cut .lognum)
  rw [columns, Text.getD_content?]

/-- A line of any number has that number in its columns, where only content can stand. -/
theorem NumberedAs.standsIn {key line : Text} (h : NumberedAs key line)
    : key.StandsIn CardField.lognum.width := by
  obtain ⟨numbered, trimmed⟩ := h
  have reads := Reading.reads_ofLine line
  rw [LineKind.ofLine] at numbered
  generalize Reading.ofLine line = reading at reads numbered
  cases reads with
  | blank _ | comment _ _ | directive _ _ _ _ | unnumbered _ _ _ => cases numbered
  | numbered _ present =>
      obtain ⟨text, found⟩ := Option.isSome_iff_exists.mp present
      have same : text = key := by
        rw [← trimmed, ← Card.getD_lognum_record, found, Option.getD_some]
      have stands : text.StandsIn CardField.lognum.width :=
        (Card.fits_record ⟨line⟩).standsIn found
      exact same ▸ stands

theorem Entry.isKeyed_iff {key : Text} {entry : Entry}
    : entry.isKeyed key = true ↔ ∃ s, entry = .statement s ∧ s.lognum = key := by
  cases entry with
  | statement s => simp [isKeyed, statement?]
  | directive d => simp [isKeyed, statement?]

namespace Deck

-----------------------------------------------------------------------------------------
-- The first statement of a deck with a line number
-----------------------------------------------------------------------------------------

/-- The statement stands at a place among the entries, has the key as its line number, and is
the first that does.
-/
structure FirstKeyed (deck : Deck) (key : Text) (place : Nat) (s : Statement) : Prop where
  found : deck.entries[place]? = some (.statement s)
  lognum : s.lognum = key
  first
    : ∀ before < place, ∀ entry, deck.entries[before]? = some entry → entry.isKeyed key = false

theorem statement?_eq (deck : Deck) (key : Text)
    : deck.statement? key
      = (deck.entries.find? (Entry.isKeyed key)).bind Entry.statement? := by
  rw [statement?, statements, List.find?_filterMap]
  rfl

theorem statement?_eq_none_iff {deck : Deck} {key : Text}
    : deck.statement? key = none ↔ ∀ entry ∈ deck.entries, entry.isKeyed key = false := by
  rw [statement?_eq]
  cases found : deck.entries.find? (Entry.isKeyed key) with
  | none => simpa using found
  | some entry =>
      have keyed := List.find?_some found
      obtain ⟨s, rfl, _⟩ := Entry.isKeyed_iff.mp keyed
      refine ⟨nofun, fun none => ?_⟩
      rw [none _ (List.mem_of_find?_eq_some found)] at keyed
      cases keyed

theorem statement?_eq_some_iff {deck : Deck} {key : Text} {s : Statement}
    : deck.statement? key = some s ↔ ∃ place, deck.FirstKeyed key place s := by
  rw [statement?_eq, Option.bind_eq_some_iff]
  constructor
  · rintro ⟨entry, found, same⟩
    obtain ⟨keyed, place, bound, at_place, none⟩ := List.find?_eq_some_iff_getElem.mp found
    obtain ⟨t, rfl, lognum⟩ := Entry.isKeyed_iff.mp keyed
    cases same
    refine ⟨place, List.getElem?_eq_some_iff.mpr ⟨bound, at_place⟩, lognum, ?_⟩
    intro before hb entry found
    obtain ⟨_, rfl⟩ := List.getElem?_eq_some_iff.mp found
    simpa using none before hb
  · rintro ⟨place, found, lognum, first⟩
    obtain ⟨bound, at_place⟩ := List.getElem?_eq_some_iff.mp found
    refine ⟨.statement s, ?_, rfl⟩
    refine List.find?_eq_some_iff_getElem.mpr
      ⟨Entry.isKeyed_iff.mpr ⟨s, rfl, lognum⟩, place, bound, at_place, ?_⟩
    intro before hb
    have other := first before hb _ (List.getElem?_eq_getElem (Nat.lt_trans hb bound))
    simp [other]

-----------------------------------------------------------------------------------------
-- Where the line that opens it stands
-----------------------------------------------------------------------------------------

theorem length_heads (lines : List Text)
    : (heads lines).length = (ofLines lines).entries.length := by
  rw [entries_ofLines]
  exact (forall₂_entryAt_segments lines).length_eq

/-- The entry at a place is that of the head at the same place. -/
theorem entryAt_of_getElem? {lines : List Text} {place i : Nat} {entry : Entry}
    (head : (heads lines)[place]? = some i)
    (found : (ofLines lines).entries[place]? = some entry)
    : EntryAt lines i entry := by
  rw [entries_ofLines] at found
  obtain ⟨hi, rfl⟩ := List.getElem?_eq_some_iff.mp head
  obtain ⟨he, rfl⟩ := List.getElem?_eq_some_iff.mp found
  exact (forall₂_entryAt_segments lines).get hi he

theorem exists_head_of_getElem? {lines : List Text} {place : Nat} {entry : Entry}
    (found : (ofLines lines).entries[place]? = some entry)
    : ∃ i, (heads lines)[place]? = some i ∧ EntryAt lines i entry := by
  have bound : place < (heads lines).length :=
    length_heads lines ▸ (List.getElem?_eq_some_iff.mp found).1
  have head := List.getElem?_eq_getElem bound
  exact ⟨_, head, entryAt_of_getElem? head found⟩

/-- Heads are in the order of their lines. -/
theorem lt_of_heads_lt {lines : List Text} {place later i j : Nat}
    (head : (heads lines)[place]? = some i) (next : (heads lines)[later]? = some j) (h : i < j)
    : place < later := by
  obtain ⟨hp, rfl⟩ := List.getElem?_eq_some_iff.mp head
  obtain ⟨hl, rfl⟩ := List.getElem?_eq_some_iff.mp next
  have sorted := List.pairwise_iff_getElem.mp
    (positions_pairwise (fun line => (LineKind.ofLine line).isHead) lines)
  refine Nat.lt_of_not_le fun le => ?_
  rcases Nat.lt_or_eq_of_le le with lt | rfl
  · exact absurd (sorted later place hl hp lt) (Nat.lt_asymm h)
  · exact absurd h (Nat.lt_irrefl _)

/-- An entry has the key exactly if the line of its head is numbered with it. -/
theorem EntryAt.isKeyed_iff {lines : List Text} {i : Nat} {entry : Entry} {key : Text}
    (h : EntryAt lines i entry)
    : entry.isKeyed key = true ↔ ∃ line, lines[i]? = some line ∧ NumberedAs key line := by
  rw [Entry.isKeyed_iff]
  cases h with
  | directive found kind _ _ =>
      constructor
      · rintro ⟨s, same, _⟩
        cases same
      · rintro ⟨line, there, numbered, _⟩
        cases found.symm.trans there
        rw [kind] at numbered
        cases numbered
  | @statement line s found kind primary _ _ _ _ =>
      have lognum : s.lognum = Text.trim ((line.drop 1).take 6) := by
        rw [Statement.lognum, primary, Card.getD_lognum_record]
      constructor
      · rintro ⟨_, same, keyed⟩
        cases same
        exact ⟨line, found, kind, lognum.symm.trans keyed⟩
      · rintro ⟨_, there, _, keyed⟩
        cases found.symm.trans there
        exact ⟨s, rfl, lognum.trans keyed⟩

/-- A numbered line is a head, so it has an entry, at the place of that head. -/
theorem exists_place_of_numberedAs {lines : List Text} {i : Nat} {line key : Text}
    (found : lines[i]? = some line) (h : NumberedAs key line)
    : ∃ (place : Nat) (entry : Entry),
        (heads lines)[place]? = some i
        ∧ (ofLines lines).entries[place]? = some entry
        ∧ entry.isKeyed key = true := by
  have isHead : i ∈ heads lines := by
    refine mem_heads.mpr ⟨.numbered, ?_, rfl⟩
    rw [kindAt, found, Option.map_some, h.1]
  obtain ⟨place, head⟩ := List.mem_iff_getElem?.mp isHead
  have bound : place < (ofLines lines).entries.length :=
    length_heads lines ▸ (List.getElem?_eq_some_iff.mp head).1
  have entry := List.getElem?_eq_getElem bound
  have keyed := (entryAt_of_getElem? head entry).isKeyed_iff.mpr ⟨line, found, h⟩
  exact ⟨place, _, head, entry, keyed⟩

theorem FirstKeyed.exists_head {lines : List Text} {key : Text} {place : Nat} {s : Statement}
    (h : (ofLines lines).FirstKeyed key place s)
    : ∃ i,
        (heads lines)[place]? = some i
        ∧ EntryAt lines i (.statement s)
        ∧ lines.findIdx? (fun line => decide (NumberedAs key line)) = some i := by
  obtain ⟨i, head, entryAt⟩ := exists_head_of_getElem? h.found
  have keyed : (Entry.statement s).isKeyed key = true := Entry.isKeyed_iff.mpr ⟨s, rfl, h.lognum⟩
  obtain ⟨line, there, numbered⟩ := entryAt.isKeyed_iff.mp keyed
  obtain ⟨hi, rfl⟩ := List.getElem?_eq_some_iff.mp there
  refine ⟨i, head, entryAt, List.findIdx?_eq_some_iff_getElem.mpr ⟨hi, ?_, ?_⟩⟩
  · exact decide_eq_true numbered
  · -- A line of that number before would be a head with an entry before, which has the key.
    intro j hj earlier
    have there := List.getElem?_eq_getElem (Nat.lt_trans hj hi)
    obtain ⟨before, entry, earlierHead, found, keyed⟩ :=
      exists_place_of_numberedAs there (of_decide_eq_true earlier)
    have other := h.first before (lt_of_heads_lt earlierHead head hj) entry found
    rw [other] at keyed
    cases keyed

theorem statement?_ofLines_eq_none_iff {lines : List Text} {key : Text}
    : (ofLines lines).statement? key = none ↔ ∀ line ∈ lines, ¬ NumberedAs key line := by
  rw [statement?_eq_none_iff]
  constructor
  · intro none line member numbered
    obtain ⟨i, there⟩ := List.mem_iff_getElem?.mp member
    obtain ⟨_, entry, _, found, keyed⟩ := exists_place_of_numberedAs there numbered
    rw [none entry (List.mem_of_getElem? found)] at keyed
    cases keyed
  · intro none entry member
    refine Bool.eq_false_iff.mpr fun keyed => ?_
    obtain ⟨place, found⟩ := List.mem_iff_getElem?.mp member
    obtain ⟨i, _, entryAt⟩ := exists_head_of_getElem? found
    obtain ⟨line, there, numbered⟩ := entryAt.isKeyed_iff.mp keyed
    exact none line (List.mem_of_getElem? there) numbered

-----------------------------------------------------------------------------------------
-- Longer listings
-----------------------------------------------------------------------------------------

/-- The entry of a head with another one behind it is not the last. -/
theorem lt_length_of_heads_lt {lines : List Text} {place i k : Nat}
    (head : (heads lines)[place]? = some i) (later : k ∈ heads lines) (h : i < k)
    : place + 1 < (ofLines lines).entries.length := by
  obtain ⟨next, found⟩ := List.mem_iff_getElem?.mp later
  have bound := (List.getElem?_eq_some_iff.mp found).1
  rw [length_heads] at bound
  exact Nat.lt_of_le_of_lt (lt_of_heads_lt head found h) bound

/-- More lines leave every entry before the last as it is, and the last with its line number.
-/
theorem FirstKeyed.append {lines : List Text} {key : Text} {place : Nat} {s : Statement}
    (h : (ofLines lines).FirstKeyed key place s) (more : List Text)
    : ∃ rows,
        (ofLines (lines ++ more)).FirstKeyed key place (s.extend rows)
        ∧ (rows = [] ∨ place + 1 = (ofLines lines).entries.length) := by
  have bound : place < (ofLines lines).entries.length :=
    (List.getElem?_eq_some_iff.mp h.found).1
  have first : ∀ before < place, ∀ entry : Entry,
      (ofLines (lines ++ more)).entries[before]? = some entry → entry.isKeyed key = false := by
    intro before hb entry found
    have there := List.getElem?_eq_getElem (Nat.lt_trans hb bound)
    rcases getElem?_entries_append more there with kept | ⟨_, _, _, last, _⟩
    · cases kept.symm.trans found
      exact h.first before hb _ there
    · omega
  rcases getElem?_entries_append more h.found with kept | ⟨t, same, _, last, extended⟩
  · exact ⟨[], ⟨by rwa [Statement.extend_nil], h.lognum, first⟩, Or.inl rfl⟩
  · cases same
    exact ⟨leadRows more, ⟨extended, h.lognum, first⟩, Or.inr last⟩

/-- Looking up a line number finds nothing exactly if no line is numbered with it; a text that
no column can hold is such a number. What it finds is the entry of the first line numbered
with it. Lines added to the listing leave that statement the first, with its numbered line and
its rows, and as it is if another head comes after that line.
-/
theorem statement?_ofLines (lines : List Text) (key : Text)
    : ((ofLines lines).statement? key = none ↔ ∀ line ∈ lines, ¬ NumberedAs key line)
      ∧ (¬ key.StandsIn 6 → (ofLines lines).statement? key = none)
      ∧ ∀ s,
        (ofLines lines).statement? key = some s
        → ∃ i place : Nat,
          lines.findIdx? (fun line => decide (NumberedAs key line)) = some i
          ∧ (heads lines)[place]? = some i
          ∧ (ofLines lines).entries[place]? = some (.statement s)
          ∧ EntryAt lines i (.statement s)
          ∧ ∀ more, ∃ s',
            (ofLines (lines ++ more)).statement? key = some s'
            ∧ s'.primary = s.primary
            ∧ s.continuations <+: s'.continuations
            ∧ ((∃ k ∈ heads lines, i < k) → s' = s) := by
  refine ⟨statement?_ofLines_eq_none_iff, ?_, ?_⟩
  · intro impossible
    refine statement?_ofLines_eq_none_iff.mpr fun line _ numbered => ?_
    exact impossible numbered.standsIn
  · intro s found
    obtain ⟨place, first⟩ := statement?_eq_some_iff.mp found
    obtain ⟨i, head, entryAt, index⟩ := first.exists_head
    refine ⟨i, place, index, head, first.found, entryAt, fun more => ?_⟩
    obtain ⟨rows, grown, unchanged⟩ := first.append more
    refine ⟨s.extend rows, statement?_eq_some_iff.mpr ⟨place, grown⟩, rfl,
      List.prefix_append _ _, ?_⟩
    rintro ⟨k, later, behind⟩
    have notLast := lt_length_of_heads_lt head later behind
    rcases unchanged with rfl | last
    · exact s.extend_nil
    · omega

/-- A comment and two numbered lines have the same number. The first of these opens the
statement that is found, and the title after its row keeps later lines from adding to it.
-/
theorem statement?_ofLines_repeated
    : (ofLines [['#', '1'], [' ', '1'], List.replicate 19 ' ' ++ ['A'], ['L'],
          [' ', '1']]).statement? ['1']
        = some ⟨(Card.mk [' ', '1']).record, [(Card.mk (List.replicate 19 ' ' ++ ['A'])).row]⟩
      ∧ (∀ more,
        (ofLines ([['#', '1'], [' ', '1'], List.replicate 19 ' ' ++ ['A'], ['L'],
            [' ', '1']] ++ more)).statement? ['1']
          = some ⟨(Card.mk [' ', '1']).record,
              [(Card.mk (List.replicate 19 ' ' ++ ['A'])).row]⟩)
      ∧ ¬ Text.StandsIn 6 [' ', '1']
      ∧ (ofLines [['#', '1'], [' ', '1'], List.replicate 19 ' ' ++ ['A'], ['L'],
          [' ', '1']]).statement? [' ', '1'] = none := by
  have found : (ofLines [['#', '1'], [' ', '1'], List.replicate 19 ' ' ++ ['A'], ['L'],
      [' ', '1']]).statement? ['1']
      = some ⟨(Card.mk [' ', '1']).record,
          [(Card.mk (List.replicate 19 ' ' ++ ['A'])).row]⟩ := by
    decide +kernel
  have impossible : ¬ Text.StandsIn 6 [' ', '1'] := fun stands =>
    Bool.noConfusion (stands.start ' ' rfl)
  refine ⟨found, fun more => ?_, impossible, (statement?_ofLines _ _).2.1 impossible⟩
  obtain ⟨i, _, index, _, _, _, grows⟩ := (statement?_ofLines _ _).2.2 _ found
  have first : i = 1 := by
    have at_one : [['#', '1'], [' ', '1'], List.replicate 19 ' ' ++ ['A'], ['L'],
        [' ', '1']].findIdx? (fun line => decide (NumberedAs ['1'] line)) = some 1 := by
      decide +kernel
    exact Option.some.inj (index.symm.trans at_one)
  obtain ⟨s, same, _, _, unchanged⟩ := grows more
  rw [same, unchanged ⟨3, by decide +kernel, by omega⟩]

end Deck

end CardListing
