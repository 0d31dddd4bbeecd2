import CardListing.Proofs.Json.RoundTrip.Value
import Mathlib.Tactic.SplitIfs

/-! Printed JSON is free of control characters. No token holds one: names and punctuation are
fixed, numbers are spelled by digits and a few marks, and in strings controls are escaped.
-/

namespace CardListing

namespace Json

-----------------------------------------------------------------------------------------
-- Numbers
-----------------------------------------------------------------------------------------

theorem le_of_all {text : Text} (h : (text.all fun c => 32 ≤ c.toNat) = true)
    : ∀ c ∈ text, 32 ≤ c.toNat := by
  simpa using h

theorem le_of_isDigit {c : Char} (h : c.isDigit = true) : 32 ≤ c.toNat := by
  have bounds : '0'.val ≤ c.val ∧ c.val ≤ '9'.val := by simpa [Char.isDigit] using h
  have above : 48 ≤ c.toNat := bounds.1
  exact Nat.le_trans (by decide) above

theorem le_of_mem_decimalDigits (n : Nat) : ∀ c ∈ decimalDigits n, 32 ≤ c.toNat := by
  intro c among
  exact le_of_isDigit (Number.isDigit_of_mem_decimalDigits n c among)

theorem le_of_mem_fractionText (digits : List (Fin 10))
    : ∀ c ∈ Number.fractionText digits, 32 ≤ c.toNat := by
  intro c among
  cases digits with
  | nil => cases among
  | cons d later =>
      rcases List.mem_cons.mp among with rfl | digit
      · decide
      · obtain ⟨d, _, rfl⟩ := List.mem_map.mp digit
        exact le_of_isDigit (Number.isDigit_digitChar d)

theorem le_of_mem_exponentText (exponent : Option Int)
    : ∀ c ∈ Number.exponentText exponent, 32 ≤ c.toNat := by
  intro c among
  rcases exponent with _ | (n | n)
  · cases among
  · rcases List.mem_cons.mp among with rfl | digit
    · decide
    · exact le_of_mem_decimalDigits n c digit
  · rcases List.mem_cons.mp among with rfl | signed
    · decide
    rcases List.mem_cons.mp signed with rfl | digit
    · decide
    · exact le_of_mem_decimalDigits (n + 1) c digit

theorem Number.le_of_mem_text (number : Number) : ∀ c ∈ number.text, 32 ≤ c.toNat := by
  intro c among
  simp only [text, List.mem_append] at among
  rcases among with ((sign | whole) | fraction) | exponent
  · split at sign
    · rw [List.mem_singleton.mp sign]
      decide
    · cases sign
  · exact le_of_mem_decimalDigits _ c whole
  · exact le_of_mem_fractionText _ c fraction
  · exact le_of_mem_exponentText _ c exponent

-----------------------------------------------------------------------------------------
-- Strings
-----------------------------------------------------------------------------------------

theorem le_hexDigit {n : Nat} (h : n < 16) : 32 ≤ (hexDigit n).toNat := by
  revert n
  decide

/-- An escape is made of characters that are no controls, by the way the character is escaped;
a character that stands for itself is none.
-/
theorem le_of_mem_escape (c : Char) : ∀ d ∈ escape c, 32 ≤ d.toNat := by
  rw [escape]
  split_ifs with _ _ _ _ _ _ _ low
  iterate 7 · exact le_of_all (by decide)
  · have small : c.toNat < 32 := low
    have lead : ∀ d ∈ ['\\', 'u', '0', '0'], 32 ≤ d.toNat := le_of_all (by decide)
    intro d among
    have spelled : d ∈ ['\\', 'u', '0', '0']
        ∨ d = hexDigit (c.toNat / 16)
        ∨ d = hexDigit (c.toNat % 16) := by
      simpa [or_assoc] using among
    rcases spelled with fixed | rfl | rfl
    · exact lead d fixed
    · exact le_hexDigit (by omega)
    · exact le_hexDigit (by omega)
  · intro d among
    rw [List.mem_singleton.mp among]
    exact Nat.le_of_not_lt low

theorem le_of_mem_quote (text : Option Text) : ∀ c ∈ quote text, 32 ≤ c.toNat := by
  cases text with
  | none => exact le_of_all (by decide)
  | some text =>
      intro c among
      simp only [quote, List.cons_append, List.mem_cons, List.mem_append, List.mem_flatMap,
        List.not_mem_nil, or_false] at among
      rcases among with rfl | ⟨d, _, escaped⟩ | rfl
      · decide
      · exact le_of_mem_escape d c escaped
      · decide

-----------------------------------------------------------------------------------------
-- Values
-----------------------------------------------------------------------------------------

/-- The text of a token holds no control, unless it is stray text that no value has. -/
theorem le_of_mem_tokenText {token : Token} (h : ∀ c, token ≠ .stray c)
    : ∀ c ∈ token.text, 32 ≤ c.toNat := by
  cases token with
  | openBracket | closeBracket | openBrace | closeBrace | colon | comma =>
      exact le_of_all (by decide)
  | stray c => exact (h c rfl).elim
  | scalar s =>
      cases s with
      | null => exact le_of_all (by decide)
      | bool value => cases value <;> exact le_of_all (by decide)
      | number n => exact n.le_of_mem_text
      | string text => exact le_of_mem_quote text

mutual

/-- A value has no stray text among its tokens, by induction on it. -/
theorem stray_not_mem_tokens (c : Char) : (json : Json) → .stray c ∉ json.tokens
  | .scalar _ => by simp [tokens]
  | .array [] => by simp [tokens]
  | .array (item :: later) => by
      have first := stray_not_mem_tokens c item
      have rest := stray_not_mem_laterItems c later
      simp [tokens, first, rest]
  | .object [] => by simp [tokens]
  | .object ((_, value) :: later) => by
      have first := stray_not_mem_tokens c value
      have rest := stray_not_mem_laterMembers c later
      simp [tokens, first, rest]

theorem stray_not_mem_laterItems (c : Char) : (items : List Json) → .stray c ∉ laterItems items
  | [] => by simp [laterItems]
  | item :: later => by
      have first := stray_not_mem_tokens c item
      have rest := stray_not_mem_laterItems c later
      simp [laterItems, first, rest]

theorem stray_not_mem_laterMembers (c : Char)
    : (members : List (Option Text × Json)) → .stray c ∉ laterMembers members
  | [] => by simp [laterMembers]
  | (_, value) :: later => by
      have first := stray_not_mem_tokens c value
      have rest := stray_not_mem_laterMembers c later
      simp [laterMembers, first, rest]

end

/-- The print of a value holds no control character. -/
theorem le_of_mem_print (json : Json) : ∀ c ∈ json.print, 32 ≤ c.toNat := by
  intro c among
  obtain ⟨token, member, spelled⟩ := List.mem_flatMap.mp among
  refine le_of_mem_tokenText ?_ c spelled
  rintro d rfl
  exact stray_not_mem_tokens d json member

end Json

end CardListing
