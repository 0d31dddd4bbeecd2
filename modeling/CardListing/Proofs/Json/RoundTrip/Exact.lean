import CardListing.Json.Printer
import CardListing.Json.Reader

/-!
Only the tokens of a value are read as a value. Whatever the reader takes up for a value are
the tokens of that value, so that a text is a value exactly when it is scanned as the tokens
of one.
-/

namespace CardListing

namespace Json

mutual

/-- Where a value is due and reading succeeds, the tokens of a value stand, by induction on
the tokens. -/
theorem exists_tokens_of_readDue?
    : (tokens : List Token) → (frames : List Frame) → (found : Json × List Token)
      → readDue? frames tokens = some found
      → ∃ value rest, tokens = value.tokens ++ rest
        ∧ readOn? value frames rest = some found
  | tokens, frames, found, h => by
      unfold readDue? at h
      split at h
      · rename_i s rest
        exact ⟨.scalar s, rest, by simp [Json.tokens], h⟩
      · rename_i rest
        exact ⟨.array [], rest, by simp [Json.tokens], h⟩
      · rename_i rest _
        obtain ⟨item, later, rfl, hitem⟩ := exists_tokens_of_readDue? _ _ _ h
        obtain ⟨items, rest, rfl, hread⟩ := exists_items_of_readOn? _ _ _ _ _ hitem
        exact ⟨.array (item :: items), rest, by simp [Json.tokens], by simpa using hread⟩
      · rename_i rest
        exact ⟨.object [], rest, by simp [Json.tokens], h⟩
      · rename_i name rest
        obtain ⟨value, later, rfl, hvalue⟩ := exists_tokens_of_readDue? _ _ _ h
        obtain ⟨members, rest, rfl, hread⟩ := exists_members_of_readOn? _ _ _ _ _ _ hvalue
        exact ⟨.object ((name, value) :: members), rest, by simp [Json.tokens],
          by simpa using hread⟩
      · cases h
termination_by tokens => tokens.length
decreasing_by all_goals grind

/-- After an item, where reading succeeds, the tokens of later items stand. -/
theorem exists_items_of_readOn?
    : (tokens : List Token) → (item : Json) → (before : List Json)
      → (frames : List Frame) → (found : Json × List Token)
      → readOn? item (.items before :: frames) tokens = some found
      → ∃ items rest, tokens = laterItems items ++ rest
        ∧ readOn? (.array ((item :: before).reverse ++ items)) frames rest = some found
  | tokens, item, before, frames, found, h => by
      unfold readOn? at h
      split at h
      · rename_i heq
        cases heq
      · rename_i rest heq
        cases heq
        obtain ⟨next, later, rfl, hnext⟩ := exists_tokens_of_readDue? _ _ _ h
        obtain ⟨items, rest, rfl, hread⟩ := exists_items_of_readOn? _ _ _ _ _ hnext
        exact ⟨next :: items, rest, by simp [laterItems], by simpa using hread⟩
      · rename_i rest heq
        cases heq
        exact ⟨[], rest, by simp [laterItems], by simpa using h⟩
      · rename_i heq
        cases heq
      · rename_i heq
        cases heq
      · cases h
termination_by tokens => tokens.length
decreasing_by all_goals grind

/-- After a member, where reading succeeds, the tokens of later members stand. -/
theorem exists_members_of_readOn?
    : (tokens : List Token) → (name : Option Text) → (value : Json)
      → (before : List (Option Text × Json)) → (frames : List Frame)
      → (found : Json × List Token)
      → readOn? value (.members before name :: frames) tokens = some found
      → ∃ members rest, tokens = laterMembers members ++ rest
        ∧ readOn? (.object (((name, value) :: before).reverse ++ members)) frames rest
          = some found
  | tokens, name, value, before, frames, found, h => by
      unfold readOn? at h
      split at h
      · rename_i heq
        cases heq
      · rename_i heq
        cases heq
      · rename_i heq
        cases heq
      · rename_i next rest heq
        cases heq
        obtain ⟨value, later, rfl, hvalue⟩ := exists_tokens_of_readDue? _ _ _ h
        obtain ⟨members, rest, rfl, hread⟩ := exists_members_of_readOn? _ _ _ _ _ _ hvalue
        exact ⟨(next, value) :: members, rest, by simp [laterMembers], by simpa using hread⟩
      · rename_i rest heq
        cases heq
        exact ⟨[], rest, by simp [laterMembers], by simpa using h⟩
      · cases h
termination_by tokens => tokens.length
decreasing_by all_goals grind

end

/-- What is read as a value are the tokens of the value. -/
theorem eq_tokens_append_of_readValue? {tokens rest : List Token} {json : Json}
    (h : readValue? tokens = some (json, rest))
    : tokens = json.tokens ++ rest := by
  obtain ⟨value, later, rfl, hvalue⟩ := exists_tokens_of_readDue? _ _ _ h
  rw [readOn?] at hvalue
  obtain ⟨rfl, rfl⟩ := Prod.mk.inj (Option.some.inj hvalue)
  rfl

/-- A text that is a value is scanned as the tokens of the value. -/
theorem scan_eq_tokens_of_read? {text : Text} {json : Json} (h : read? text = some json)
    : Token.scan text = json.tokens := by
  unfold read? ofTokens? at h
  split at h
  · rename_i found hread
    cases h
    rw [eq_tokens_append_of_readValue? hread, List.append_nil]
  · cases h

end Json

end CardListing
