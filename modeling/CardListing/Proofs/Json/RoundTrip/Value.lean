import CardListing.Json.Printer
import CardListing.Json.Reader
import CardListing.Proofs.Json.RoundTrip.Token

/-!
Values read back. The printed text of a value is scanned as the tokens of the value, and
these are read as the value; so a text can be the print of one value only.
-/

namespace CardListing

namespace Json

/-! Reading the tokens of a value. -/

/-- The tokens of a value do not begin with a closing bracket. -/
theorem exists_tokens_eq_cons (json : Json)
    : ∃ token rest, json.tokens = token :: rest ∧ token ≠ .closeBracket := by
  cases json with
  | scalar s => exact ⟨_, _, by rw [tokens], by simp⟩
  | array items => cases items <;> exact ⟨_, _, by rw [tokens], by simp⟩
  | object members => cases members <;> exact ⟨_, _, by rw [tokens], by simp⟩

/-- An opening bracket before anything but a closing one begins the items of an array. -/
theorem readDue?_openBracket (frames : List Frame) (token : Token) (rest : List Token)
    (h : token ≠ .closeBracket)
    : readDue? frames (.openBracket :: token :: rest)
      = readDue? (.items [] :: frames) (token :: rest) := by
  rw [readDue?]
  intro _ he
  exact h (List.cons.inj he).1

mutual

/-- Where a value is due its tokens are read as the value, by induction on it. -/
theorem readDue?_tokens
    : (json : Json) → (frames : List Frame) → (rest : List Token)
      → readDue? frames (json.tokens ++ rest) = readOn? json frames rest
  | .scalar _, _, _ => by simp [tokens, readDue?]
  | .array [], _, _ => by simp [tokens, readDue?]
  | .array (item :: later), frames, rest => by
      have hitem := readDue?_tokens item
      have hlater := readOn?_laterItems later
      obtain ⟨token, tail, htokens, hne⟩ := exists_tokens_eq_cons item
      have hopen := readDue?_openBracket frames token (tail ++ (laterItems later ++ rest)) hne
      rw [← List.cons_append, ← htokens] at hopen
      rw [tokens, List.cons_append, List.append_assoc, hopen, hitem, hlater]
      simp
  | .object [], _, _ => by simp [tokens, readDue?]
  | .object ((name, value) :: later), frames, rest => by
      have hvalue := readDue?_tokens value
      have hlater := readOn?_laterMembers later
      rw [tokens, List.cons_append, List.cons_append, List.cons_append, List.append_assoc,
        readDue?, hvalue, hlater]
      simp

/-- After an item the later ones complete the array, by induction on them. -/
theorem readOn?_laterItems
    : (later before : List Json) → (item : Json) → (frames : List Frame)
      → (rest : List Token)
      → readOn? item (.items before :: frames) (laterItems later ++ rest)
        = readOn? (.array ((item :: before).reverse ++ later)) frames rest
  | [], _, _, _, _ => by simp [laterItems, readOn?]
  | next :: later, before, item, frames, rest => by
      have hnext := readDue?_tokens next
      have hlater := readOn?_laterItems later
      rw [laterItems, List.cons_append, List.append_assoc, readOn?, hnext, hlater]
      simp

/-- After a member the later ones complete the object, by induction on them. -/
theorem readOn?_laterMembers
    : (later before : List (Option Text × Json)) → (name : Option Text) → (value : Json)
      → (frames : List Frame) → (rest : List Token)
      → readOn? value (.members before name :: frames) (laterMembers later ++ rest)
        = readOn? (.object (((name, value) :: before).reverse ++ later)) frames rest
  | [], _, _, _, _, _ => by simp [laterMembers, readOn?]
  | (_, next) :: later, before, name, value, frames, rest => by
      have hnext := readDue?_tokens next
      have hlater := readOn?_laterMembers later
      rw [laterMembers, List.cons_append, List.cons_append, List.cons_append,
        List.append_assoc, readOn?, hnext, hlater]
      simp

end

/-- The tokens of a value are read as the value, whatever follows them. -/
theorem readValue?_tokens_append (json : Json) (rest : List Token)
    : readValue? (json.tokens ++ rest) = some (json, rest) := by
  rw [readValue?, readDue?_tokens, readOn?]

theorem ofTokens?_tokens (json : Json) : ofTokens? json.tokens = some json := by
  have h := readValue?_tokens_append json []
  rw [List.append_nil] at h
  rw [ofTokens?, h]

/-! Scanning the print of a value. -/

theorem endsNumber_nil : Number.EndsNumber [] := by
  intro c h
  cases h

theorem endsNumber_cons (c : Char) (rest : Text)
    (h : c.isDigit = false ∧ c ≠ '.' ∧ c ≠ 'e' ∧ c ≠ 'E')
    : Number.EndsNumber (c :: rest) := by
  intro d hd
  rw [← Option.some.inj hd]
  exact h

/-- The text of some tokens, one after the other. -/
def tokensText (tokens : List Token) : Text := tokens.flatMap Token.text

@[simp] theorem tokensText_cons (token : Token) (tokens : List Token)
    : tokensText (token :: tokens) = token.text ++ tokensText tokens := rfl

@[simp] theorem tokensText_append (first second : List Token)
    : tokensText (first ++ second) = tokensText first ++ tokensText second := by
  simp [tokensText]

theorem endsNumber_laterItems (later : List Json) (rest : Text)
    : Number.EndsNumber (tokensText (laterItems later) ++ rest) := by
  cases later <;> exact endsNumber_cons _ _ (by decide)

theorem endsNumber_laterMembers (later : List (Option Text × Json)) (rest : Text)
    : Number.EndsNumber (tokensText (laterMembers later) ++ rest) := by
  cases later <;> exact endsNumber_cons _ _ (by decide)

/-- A member's name and its colon are scanned as themselves. -/
theorem scan_name (name : Option Text) (rest : Text)
    : Token.scan ((Token.scalar (.string name)).text ++ (Token.colon.text ++ rest))
      = .scalar (.string name) :: .colon :: Token.scan rest :=
  (Token.scan_quote name _).trans
    (congrArg _ (Token.scan_punctuation .colon rfl rest))

mutual

/-- The printed tokens of a value are scanned, by induction on it. -/
theorem scan_tokensText
    : (json : Json) → (rest : Text) → Number.EndsNumber rest
      → Token.scan (tokensText json.tokens ++ rest) = json.tokens ++ Token.scan rest
  | .scalar s, rest, h => by
      simpa [tokens, tokensText, Token.text] using Token.scan_scalar s rest h
  | .array [], rest, _ => by
      rw [tokens, tokensText_cons, tokensText_cons, List.append_assoc, List.append_assoc,
        Token.scan_punctuation .openBracket rfl, Token.scan_punctuation .closeBracket rfl]
      rfl
  | .array (item :: later), rest, h => by
      have hitem := scan_tokensText item (tokensText (laterItems later) ++ rest)
        (endsNumber_laterItems later rest)
      rw [tokens, tokensText_cons, tokensText_append, List.append_assoc, List.append_assoc,
        Token.scan_punctuation .openBracket rfl, hitem, scan_laterItems later rest h]
      simp
  | .object [], rest, _ => by
      rw [tokens, tokensText_cons, tokensText_cons, List.append_assoc, List.append_assoc,
        Token.scan_punctuation .openBrace rfl, Token.scan_punctuation .closeBrace rfl]
      rfl
  | .object ((name, value) :: later), rest, h => by
      have hvalue := scan_tokensText value (tokensText (laterMembers later) ++ rest)
        (endsNumber_laterMembers later rest)
      rw [tokens, tokensText_cons, tokensText_cons, tokensText_cons, tokensText_append]
      simp only [List.append_assoc]
      rw [Token.scan_punctuation .openBrace rfl, scan_name, hvalue, scan_laterMembers later rest h]
      simp

/-- The printed tokens after an item are scanned, by induction on the later items. -/
theorem scan_laterItems
    : (later : List Json) → (rest : Text) → Number.EndsNumber rest
      → Token.scan (tokensText (laterItems later) ++ rest)
        = laterItems later ++ Token.scan rest
  | [], rest, _ => by
      rw [laterItems, tokensText_cons, List.append_assoc, Token.scan_punctuation .closeBracket rfl]
      rfl
  | item :: later, rest, h => by
      have hitem := scan_tokensText item (tokensText (laterItems later) ++ rest)
        (endsNumber_laterItems later rest)
      rw [laterItems, tokensText_cons, tokensText_append, List.append_assoc,
        List.append_assoc, Token.scan_punctuation .comma rfl, hitem, scan_laterItems later rest h]
      simp

/-- The printed tokens after a member are scanned, by induction on the later members. -/
theorem scan_laterMembers
    : (later : List (Option Text × Json)) → (rest : Text) → Number.EndsNumber rest
      → Token.scan (tokensText (laterMembers later) ++ rest)
        = laterMembers later ++ Token.scan rest
  | [], rest, _ => by
      rw [laterMembers, tokensText_cons, List.append_assoc, Token.scan_punctuation .closeBrace rfl]
      rfl
  | (name, value) :: later, rest, h => by
      have hvalue := scan_tokensText value (tokensText (laterMembers later) ++ rest)
        (endsNumber_laterMembers later rest)
      rw [laterMembers, tokensText_cons, tokensText_cons, tokensText_cons, tokensText_append]
      simp only [List.append_assoc]
      rw [Token.scan_punctuation .comma rfl, scan_name, hvalue, scan_laterMembers later rest h]
      simp

end

/-- The print of a value is scanned as the tokens of the value. -/
theorem scan_print (json : Json) : Token.scan json.print = json.tokens := by
  have h := scan_tokensText json [] endsNumber_nil
  rw [List.append_nil, Token.scan, List.append_nil] at h
  exact h

/-- The print of a value is read as the value. -/
theorem read?_print (json : Json) : read? json.print = some json := by
  rw [read?, scan_print]
  exact ofTokens?_tokens json

end Json

end CardListing
