import CardListing.Proofs.Deck.BuilderRuns

/-! Decks of concatenated listings. The lines of a first listing leave a statement open
exactly when its deck ends in one, and that statement alone can still change.
-/

namespace CardListing

namespace Builder

/-- Draining two listings is draining the second after the lines of the first. -/
theorem drain_append (builder : Builder) (xs ys : List Text)
    : builder.drain (xs ++ ys)
      = (builder.emissions xs).flatMap Emission.entries ++ (builder.run xs).drain ys := by
  rw [drain_eq, emissions_append, run_append, List.flatMap_append, List.append_assoc,
    ← drain_eq]

/-- A drain with nothing to show for it has met no open statement and no head. -/
theorem current_eq_none_of_drain_eq_nil {builder : Builder} {lines : List Text}
    (h : builder.drain lines = [])
    : builder.current = none := by
  rw [drain_eq_segments] at h
  cases hc : builder.current with
  | none => rfl
  | some s => simp [hc] at h

/-- The last entry drained is a statement exactly if one is open after the lines, and then
it is that one. Witness: list induction; a line that completes a statement without leaving
one open has completed a directive after it.
-/
theorem lastStatement_drain (builder : Builder) (lines : List Text)
    : (builder.drain lines).getLast?.bind Entry.statement? = (builder.run lines).current := by
  induction lines generalizing builder with
  | nil => cases hc : builder.current <;> simp [drain, run, finish, hc, Entry.statement?]
  | cons line rest ih =>
      rw [drain_cons, List.getLast?_append, run, ← ih]
      cases hd : (builder.push line).1.drain rest with
      | cons entry later =>
          rw [List.getLast?_eq_some_getLast (List.cons_ne_nil entry later)]
          rfl
      | nil =>
          have closed := current_eq_none_of_drain_eq_nil hd
          cases hl : (builder.push line).2.entries.getLast? with
          | none => rfl
          | some entry =>
              cases entry with
              | directive d => rfl
              | statement s =>
                  have opened : (builder.push line).1.isOpen = true := isOpen_step_of_getLast? hl
                  rw [isOpen, closed] at opened
                  cases opened

/-- The entries completed before the end of the listing, with the statement left open. -/
theorem drain_eq_emissions_append {builder : Builder} {lines : List Text} {s : Statement}
    (h : (builder.run lines).current = some s)
    : builder.drain lines
      = (builder.emissions lines).flatMap Emission.entries ++ [.statement s] := by
  rw [drain_eq, finish, h]
  rfl

end Builder

namespace Deck

/-- A deck ends in a statement exactly if its lines leave that statement open. -/
theorem getLast?_entries_eq_statement_iff {lines : List Text} {s : Statement}
    : (ofLines lines).entries.getLast? = some (.statement s)
      ↔ (Builder.run {} lines).current = some s := by
  rw [← Builder.lastStatement_drain, ofLines]
  cases (Builder.drain {} lines).getLast? with
  | none => simp
  | some entry => cases entry <;> simp [Entry.statement?]

/-- Lines after an open statement extend it by the rows before their first head. -/
theorem entries_append_of_open {xs : List Text} {s : Statement} (ys : List Text)
    (h : (Builder.run {} xs).current = some s)
    : (ofLines (xs ++ ys)).entries
      = (Builder.emissions {} xs).flatMap Emission.entries
        ++ .statement (s.extend (leadRows ys)) :: (ofLines ys).entries := by
  rw [entries_ofLines ys, ofLines, Builder.drain_append, Builder.drain_eq_segments, h]
  rfl

/-- Lines after no open statement are grouped as on their own. -/
theorem entries_append_of_closed {xs : List Text} (ys : List Text)
    (h : (Builder.run {} xs).current = none)
    : (ofLines (xs ++ ys)).entries = (ofLines xs).entries ++ (ofLines ys).entries := by
  have whole : (ofLines xs).entries = (Builder.emissions {} xs).flatMap Emission.entries := by
    rw [ofLines, Builder.drain_eq, Builder.finish, h]
    exact List.append_nil _
  rw [whole, entries_ofLines ys, ofLines, Builder.drain_append, Builder.drain_eq_segments, h]
  rfl

/-- Later lines alter no entry but the statement left open, which stands last. -/
theorem getElem?_entries_append {xs : List Text} (ys : List Text) {i : Nat} {entry : Entry}
    (found : (ofLines xs).entries[i]? = some entry)
    : (ofLines (xs ++ ys)).entries[i]? = some entry
      ∨ ∃ s,
        entry = .statement s
        ∧ (Builder.run {} xs).current = some s
        ∧ i + 1 = (ofLines xs).entries.length
        ∧ (ofLines (xs ++ ys)).entries[i]? = some (.statement (s.extend (leadRows ys))) := by
  cases current : (Builder.run {} xs).current with
  | none =>
      rw [entries_append_of_closed ys current]
      exact Or.inl (List.getElem?_append_left (List.getElem?_eq_some_iff.mp found).1 ▸ found)
  | some s =>
      have whole : (ofLines xs).entries
          = (Builder.emissions {} xs).flatMap Emission.entries ++ [.statement s] :=
        Builder.drain_eq_emissions_append current
      rw [entries_append_of_open ys current]
      rw [whole] at found ⊢
      by_cases hi : i < ((Builder.emissions {} xs).flatMap Emission.entries).length
      · rw [List.getElem?_append_left hi] at found
        exact Or.inl (by rw [List.getElem?_append_left hi, found])
      · -- Only the last place is left, that of the statement still open.
        have last : i = ((Builder.emissions {} xs).flatMap Emission.entries).length := by
          have bound := (List.getElem?_eq_some_iff.mp found).1
          simp only [List.length_append, List.length_singleton] at bound
          omega
        subst last
        have same : entry = .statement s := by simpa [eq_comm] using found
        exact Or.inr ⟨s, same, rfl, by simp, by simp⟩

/-- The deck of a concatenation is the deck of the first listing, its last statement extended
by the rows that lead the second, followed by the deck of the second. Where the first deck
is empty or ends in a directive those rows are dropped. No entry but the statement left
open is altered by later lines.
-/
theorem entries_ofLines_append (xs ys : List Text)
    : (∀ earlier s,
        (ofLines xs).entries = earlier ++ [.statement s]
        → (ofLines (xs ++ ys)).entries
          = earlier ++ .statement (s.extend (leadRows ys)) :: (ofLines ys).entries)
      ∧ (((ofLines xs).entries = []
          ∨ ∃ earlier d, (ofLines xs).entries = earlier ++ [.directive d])
        → (ofLines (xs ++ ys)).entries = (ofLines xs).entries ++ (ofLines ys).entries)
      ∧ ∀ i entry,
        (ofLines xs).entries[i]? = some entry
        → (ofLines (xs ++ ys)).entries[i]? = some entry
          ∨ ∃ s,
            entry = .statement s
            ∧ (Builder.run {} xs).current = some s
            ∧ i + 1 = (ofLines xs).entries.length
            ∧ (ofLines (xs ++ ys)).entries[i]?
              = some (.statement (s.extend (leadRows ys))) := by
  refine ⟨?_, ?_, ?_⟩
  · intro earlier s he
    have opened : (Builder.run {} xs).current = some s :=
      getLast?_entries_eq_statement_iff.mp (by simp [he])
    have whole : (ofLines xs).entries
        = (Builder.emissions {} xs).flatMap Emission.entries ++ [.statement s] :=
      Builder.drain_eq_emissions_append opened
    rw [entries_append_of_open ys opened, List.append_cancel_right (he.symm.trans whole)]
  · intro ending
    have closed : (Builder.run {} xs).current = none := by
      refine Option.eq_none_iff_forall_ne_some.mpr fun s opened => ?_
      have last := getLast?_entries_eq_statement_iff.mpr opened
      rcases ending with he | ⟨earlier, d, he⟩ <;> simp [he] at last
    exact entries_append_of_closed ys closed
  · intro i entry found
    exact getElem?_entries_append ys found

end Deck

end CardListing
