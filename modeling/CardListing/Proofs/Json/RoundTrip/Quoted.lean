import CardListing.Json.Quoted

/-!
Strings read back. A printed string is read up to its own closing quote, character by
character, and its units have its text.
-/

namespace CardListing

namespace Json

/-- What a character of a printed string is read as: controls without a letter of their own
as units, all others as characters. -/
def printedUnit (c : Char) : StringUnit :=
  if c < ' ' ∧ c ≠ '\x08' ∧ c ≠ '\t' ∧ c ≠ '\n' ∧ c ≠ '\x0c' ∧ c ≠ '\r' then
    .unit c.toNat
  else
    .char c

/-- The units of a printed string have its text, by list induction. -/
theorem text?_map_printedUnit (text : Text)
    : StringUnit.text? (text.map printedUnit) = some text := by
  rw [StringUnit.text?]
  induction text with
  | nil => rfl
  | cons c text ih =>
      rw [List.map_cons, printedUnit]
      split
      · rename_i h
        have hlow : c.toNat < 32 := h.1
        rw [StringUnit.textAfter?, if_pos (Or.inl (by omega)), ih]
        simp
      · rw [StringUnit.textAfter?, ih]
        rfl

/-- The number of a control is read from its two hexadecimal digits. -/
theorem hexNumber?_control (n : Nat) (h : n < 32)
    : hexNumber? ['0', '0', hexDigit (n / 16), hexDigit (n % 16)] = some n := by
  revert n
  decide

/-- A character that needs no escape is read as itself. -/
theorem readUnits?_plain (before : List StringUnit) (c : Char) (rest : Text)
    (hlow : ¬ c < ' ') (hquote : c ≠ '"') (hbackslash : c ≠ '\\')
    : readUnits? before (c :: rest) = readUnits? (.char c :: before) rest := by
  rw [readUnits?.eq_5 _ _ _ hquote (fun _ _ _ _ _ he => absurd he hbackslash)
    (fun _ _ he => absurd he hbackslash), if_neg (not_or.mpr ⟨hlow, hbackslash⟩)]

/-- A printed character is read as its unit, by the way it is escaped. -/
theorem readUnits?_escape (before : List StringUnit) (c : Char) (rest : Text)
    : readUnits? before (escape c ++ rest) = readUnits? (printedUnit c :: before) rest := by
  by_cases hquote : c = '"'
  · subst hquote
    rfl
  by_cases hbackslash : c = '\\'
  · subst hbackslash
    rfl
  by_cases hbackspace : c = '\x08'
  · subst hbackspace
    rfl
  by_cases htab : c = '\t'
  · subst htab
    rfl
  by_cases hnewline : c = '\n'
  · subst hnewline
    rfl
  by_cases hfeed : c = '\x0c'
  · subst hfeed
    rfl
  by_cases hreturn : c = '\r'
  · subst hreturn
    rfl
  by_cases hlow : c < ' '
  · have hunit : printedUnit c = .unit c.toNat :=
      if_pos ⟨hlow, hbackspace, htab, hnewline, hfeed, hreturn⟩
    rw [hunit, escape, if_neg hquote, if_neg hbackslash, if_neg hbackspace, if_neg htab,
      if_neg hnewline, if_neg hfeed, if_neg hreturn, if_pos hlow]
    simp only [List.cons_append, List.nil_append, readUnits?, hexNumber?_control c.toNat hlow]
  · have hunit : printedUnit c = .char c := if_neg fun h => hlow h.1
    rw [hunit, escape, if_neg hquote, if_neg hbackslash, if_neg hbackspace, if_neg htab,
      if_neg hnewline, if_neg hfeed, if_neg hreturn, if_neg hlow]
    exact readUnits?_plain before c rest hlow hquote hbackslash

/-- The rest of a printed string is read up to its closing quote, by list induction. -/
theorem readUnits?_flatMap_escape (before : List StringUnit) (text rest : Text)
    : readUnits? before (text.flatMap escape ++ '"' :: rest)
      = some (before.reverse ++ text.map printedUnit, rest) := by
  induction text generalizing before with
  | nil => simp [readUnits?]
  | cons c text ih =>
      rw [List.flatMap_cons, List.append_assoc, readUnits?_escape, ih]
      simp

end Json

end CardListing
