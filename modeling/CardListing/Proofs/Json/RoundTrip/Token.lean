import CardListing.Proofs.Json.RoundTrip.Number
import CardListing.Proofs.Json.RoundTrip.Quoted
import CardListing.Json.Scan

/-!
Tokens scan back. The text of a token, followed by text that does not prolong it, is scanned
as that token and then the rest. Only numbers can be prolonged: quotes end a string, and the
words and the punctuation have a fixed length.
-/

namespace CardListing

namespace Json

namespace Token

/-- Scanning on after the token at the front of a text, which is no gap. -/
theorem scan_of_read? {text rest : Text} {token : Token}
    (h : read? text = some (token, rest))
    (hgap : ∀ c, text.head? = some c → isGap c = false)
    : scan text = token :: scan rest := by
  cases text with
  | nil => cases h
  | cons c text =>
      rw [scan, if_neg (by simp [hgap c rfl])]
      split
      · rename_i token' rest' hread
        rw [h] at hread
        obtain ⟨rfl, rfl⟩ := Prod.mk.inj (Option.some.inj hread)
        rfl
      · rename_i hread
        rw [h] at hread
        cases hread

/-- A sign or a digit is no gap. -/
theorem isGap_of_begins_number {c : Char} (h : c = '-' ∨ c.isDigit = true)
    : isGap c = false := by
  cases hgap : isGap c with
  | false => rfl
  | true =>
      simp only [isGap, Bool.or_eq_true, decide_eq_true_eq] at hgap
      rcases hgap with ((rfl | rfl) | rfl) | rfl <;> revert h <;> decide

/-- The literal of a number is scanned as that number. -/
theorem scan_number (number : Number) (rest : Text) (h : Number.EndsNumber rest)
    : scan (number.text ++ rest) = .scalar (.number number) :: scan rest := by
  obtain ⟨c, later, htext, hc⟩ := number.exists_text_eq_cons
  have hread := number.read?_text_append rest h
  rw [htext, List.cons_append] at hread ⊢
  apply scan_of_read?
  · rw [read?, if_pos hc, hread]
    rfl
  · intro d hd
    rw [← Option.some.inj hd]
    exact isGap_of_begins_number hc

/-- A printed string is scanned as that string, whatever follows. -/
theorem scan_quote (text? : Option Text) (rest : Text)
    : scan (quote text? ++ rest) = .scalar (.string text?) :: scan rest := by
  cases text? with
  | none => exact scan_of_read? rfl fun c hc => by cases hc; rfl
  | some text =>
      rw [quote, List.append_assoc, List.cons_append]
      apply scan_of_read?
      · rw [read?, if_neg (by decide), if_pos rfl, List.singleton_append,
          readUnits?_flatMap_escape, List.reverse_nil, List.nil_append]
        simp only [Option.map_some, text?_map_printedUnit]
      · intro c hc
        cases hc
        rfl

/-- A printed value without parts is scanned as that value. -/
theorem scan_scalar (s : Scalar) (rest : Text) (h : Number.EndsNumber rest)
    : scan (s.text ++ rest) = .scalar s :: scan rest := by
  cases s with
  | null => exact scan_of_read? rfl fun c hc => by cases hc; rfl
  | bool value =>
      cases value <;> exact scan_of_read? rfl fun c hc => by cases hc; rfl
  | number n => exact scan_number n rest h
  | string text? => exact scan_quote text? rest

/-- The text of punctuation is scanned as that token, whatever follows. -/
theorem scan_punctuation (token : Token) (h : token.text.head?.bind punctuation? = some token)
    (rest : Text)
    : scan (token.text ++ rest) = token :: scan rest := by
  obtain ⟨c, _, h⟩ := Option.bind_eq_some_iff.mp h
  unfold punctuation? at h
  split at h
  case h_7 => cases h
  all_goals
    cases h
    exact scan_of_read? rfl fun c hc => by cases hc; rfl

end Token

end Json

end CardListing
