import CardListing.Json.Number

/-!
Number literals read back. The literal written for a number, followed by text that does not
prolong it, is read as that number; each of its parts ends where the next one begins: the
digits of the whole part at the point or the exponent mark, those of the fraction at the
exponent mark.
-/

namespace CardListing

namespace Json

namespace Number

theorem digit?_digitChar (d : Fin 10) : digit? d.val.digitChar = some d := by
  revert d
  decide

theorem isDigit_digitChar (d : Fin 10) : d.val.digitChar.isDigit = true := by
  revert d
  decide

/-- The digits of a fraction read back, by list induction. -/
theorem mapM_digit?_digitChar (digits : List (Fin 10))
    : (digits.map fun d => d.val.digitChar).mapM digit? = some digits := by
  induction digits with
  | nil => rfl
  | cons d digits ih => simp [List.mapM_cons, digit?_digitChar, ih]

theorem isDigit_of_mem_decimalDigits (n : Nat) (c : Char) (h : c ∈ decimalDigits n)
    : c.isDigit = true :=
  Nat.isDigit_of_mem_toDigits (by decide) (by decide) h

theorem decimalDigits_ne_nil (n : Nat) : decimalDigits n ≠ [] := Nat.toDigits_ne_nil

/-- Only the number zero is written with a leading zero, by strong induction. -/
theorem eq_zero_of_head?_decimalDigits (n : Nat) (h : (decimalDigits n).head? = some '0')
    : n = 0 := by
  induction n using Nat.strongRecOn with
  | ind n ih =>
      by_cases hn : n < 10
      · rw [decimalDigits, Nat.toDigits_of_lt_base hn] at h
        have hchar : n.digitChar = '0' := Option.some.inj h
        have hdigit := digit?_digitChar ⟨n, hn⟩
        rw [hchar, show digit? '0' = some 0 from by decide] at hdigit
        exact (congrArg Fin.val (Option.some.inj hdigit)).symm
      · have hsplit : decimalDigits n = decimalDigits (n / 10) ++ [(n % 10).digitChar] :=
          Nat.toDigits_of_base_le (by decide) (by omega)
        rw [hsplit, List.head?_append] at h
        cases hhead : (decimalDigits (n / 10)).head? with
        | none => exact absurd (List.head?_eq_none_iff.mp hhead) (decimalDigits_ne_nil _)
        | some c =>
            rw [hhead] at h
            have hzero := ih (n / 10) (by omega) (hhead.trans h)
            omega

/-- Whether a text does not prolong a run of digits before it. -/
def EndsDigits (rest : Text) : Prop := ∀ c, rest.head? = some c → c.isDigit = false

/-- Whether a text does not prolong a number before it. -/
def EndsNumber (rest : Text) : Prop :=
  ∀ c, rest.head? = some c → c.isDigit = false ∧ c ≠ '.' ∧ c ≠ 'e' ∧ c ≠ 'E'

theorem EndsNumber.endsDigits {rest : Text} (h : EndsNumber rest) : EndsDigits rest :=
  fun c hc => (h c hc).1

/-- A run of digits ends at the first character that is none, by list induction. -/
theorem span_isDigit_append (digits rest : Text) (h : ∀ c ∈ digits, c.isDigit = true)
    (hrest : EndsDigits rest)
    : (digits ++ rest).takeWhile Char.isDigit = digits
      ∧ (digits ++ rest).dropWhile Char.isDigit = rest := by
  induction digits with
  | nil =>
      cases rest with
      | nil => exact ⟨rfl, rfl⟩
      | cons c rest => simp [hrest c rfl]
  | cons d digits ih =>
      have hd := h d (by simp)
      have hdigits := ih fun c hc => h c (by simp [hc])
      simp [hd, hdigits]

theorem readNatural?_decimalDigits (n : Nat) (rest : Text) (h : EndsDigits rest)
    : readNatural? (decimalDigits n ++ rest) = some (n, rest) := by
  have hspan := span_isDigit_append _ rest (isDigit_of_mem_decimalDigits n) h
  have hvalue : Nat.ofDigitChars 10 (decimalDigits n) 0 = n := Nat.ofDigitChars_ten_toDigits
  rw [readNatural?, hspan.1, hspan.2, if_neg (decimalDigits_ne_nil n), hvalue]

theorem readWhole?_decimalDigits (n : Nat) (rest : Text) (h : EndsDigits rest)
    : readWhole? (decimalDigits n ++ rest) = some (n, rest) := by
  have hspan := span_isDigit_append _ rest (isDigit_of_mem_decimalDigits n) h
  have hzero : ¬ ((decimalDigits n).head? = some '0' ∧ (decimalDigits n).length ≠ 1) := by
    rintro ⟨hhead, hlength⟩
    rw [eq_zero_of_head?_decimalDigits n hhead] at hlength
    exact hlength rfl
  rw [readWhole?, hspan.1, if_neg hzero, readNatural?_decimalDigits n rest h]

theorem readFraction?_fractionText (digits : List (Fin 10)) (rest : Text)
    (h : EndsDigits rest) (hpoint : ∀ c, rest.head? = some c → c ≠ '.')
    : readFraction? (fractionText digits ++ rest) = some (digits, rest) := by
  cases digits with
  | nil =>
      cases rest with
      | nil => rfl
      | cons c rest => exact if_neg (hpoint c rfl)
  | cons d digits =>
      have hdigits : ∀ c ∈ (d :: digits).map fun d => d.val.digitChar,
          c.isDigit = true := by
        intro c hc
        obtain ⟨x, -, rfl⟩ := List.mem_map.mp hc
        exact isDigit_digitChar x
      have hspan := span_isDigit_append _ rest hdigits h
      rw [fractionText, List.cons_append, readFraction?, if_pos rfl, hspan.1, hspan.2,
        if_neg (by simp), mapM_digit?_digitChar]
      · rfl
      · exact List.cons_ne_nil d digits

/-- A sign is told apart from the digits of a number without one. -/
theorem readSigned?_decimalDigits (n : Nat) (rest : Text) (h : EndsDigits rest)
    : readSigned? (decimalDigits n ++ rest) = some (Int.ofNat n, rest) := by
  have hread := readNatural?_decimalDigits n rest h
  cases hdigits : decimalDigits n with
  | nil => exact absurd hdigits (decimalDigits_ne_nil n)
  | cons c digits =>
      have hdigit : c.isDigit = true := isDigit_of_mem_decimalDigits n c (by simp [hdigits])
      rw [hdigits] at hread
      unfold readSigned?
      split
      · rename_i later heq
        rw [(List.cons.inj heq).1] at hdigit
        exact absurd hdigit (by decide)
      · rename_i later heq
        rw [(List.cons.inj heq).1] at hdigit
        exact absurd hdigit (by decide)
      · rw [hread]
        rfl

theorem readExponent?_exponentText (exponent : Option Int) (rest : Text)
    (h : EndsNumber rest)
    : readExponent? (exponentText exponent ++ rest) = some (exponent, rest) := by
  cases exponent with
  | none =>
      cases rest with
      | nil => rfl
      | cons c rest =>
          have hmark := (h c rfl).2.2
          exact if_neg fun hc => hc.elim hmark.1 hmark.2
  | some exponent =>
      cases exponent with
      | ofNat n =>
          rw [exponentText, List.cons_append, readExponent?, if_pos (Or.inl rfl),
            readSigned?_decimalDigits n rest h.endsDigits]
          rfl
      | negSucc n =>
          rw [exponentText, List.cons_append, List.cons_append, readExponent?,
            if_pos (Or.inl rfl), readSigned?,
            readNatural?_decimalDigits (n + 1) rest h.endsDigits]
          rfl

theorem head?_exponentText_append (exponent : Option Int) (rest : Text) (c : Char)
    (h : (exponentText exponent ++ rest).head? = some c)
    : c = 'e' ∨ rest.head? = some c := by
  cases exponent with
  | none => exact Or.inr h
  | some exponent => cases exponent <;> exact Or.inl (Option.some.inj h).symm

/-- A literal without its sign reads back, part by part. -/
theorem readUnsigned?_text (negative : Bool) (whole : Nat) (fraction : List (Fin 10))
    (exponent : Option Int) (rest : Text) (h : EndsNumber rest)
    : readUnsigned? negative
        (decimalDigits whole ++ (fractionText fraction ++ (exponentText exponent ++ rest)))
      = some (⟨negative, whole, fraction, exponent⟩, rest) := by
  have hexponent : EndsDigits (exponentText exponent ++ rest) := by
    intro c hc
    rcases head?_exponentText_append exponent rest c hc with rfl | hc
    · decide
    · exact (h c hc).1
  have hpoint : ∀ c, (exponentText exponent ++ rest).head? = some c → c ≠ '.' := by
    intro c hc
    rcases head?_exponentText_append exponent rest c hc with rfl | hc
    · decide
    · exact (h c hc).2.1
  have hfraction : EndsDigits (fractionText fraction ++ (exponentText exponent ++ rest)) := by
    intro c hc
    cases fraction with
    | nil => exact hexponent c hc
    | cons d digits =>
        rw [← Option.some.inj hc]
        decide
  simp only [readUnsigned?, readWhole?_decimalDigits whole _ hfraction, Option.bind_some,
    readFraction?_fractionText fraction _ hexponent hpoint,
    readExponent?_exponentText exponent rest h, Option.map_some]

/-- The literal of a number is read as that number, before text that does not prolong it. -/
theorem read?_text_append (number : Number) (rest : Text) (h : EndsNumber rest)
    : read? (number.text ++ rest) = some (number, rest) := by
  obtain ⟨negative, whole, fraction, exponent⟩ := number
  have hread := readUnsigned?_text negative whole fraction exponent rest h
  cases negative with
  | true => simpa [text, read?] using hread
  | false =>
      simp only [text, Bool.false_eq_true, if_false, List.nil_append, List.append_assoc]
      cases hdigits : decimalDigits whole with
      | nil => exact absurd hdigits (decimalDigits_ne_nil whole)
      | cons c digits =>
          have hdigit : c.isDigit = true :=
            isDigit_of_mem_decimalDigits whole c (by simp [hdigits])
          rw [hdigits] at hread
          unfold read?
          split
          · rename_i later heq
            rw [(List.cons.inj heq).1] at hdigit
            exact absurd hdigit (by decide)
          · exact hread

theorem exists_text_eq_cons (number : Number)
    : ∃ c rest, number.text = c :: rest ∧ (c = '-' ∨ c.isDigit = true) := by
  obtain ⟨negative, whole, fraction, exponent⟩ := number
  cases negative with
  | true => exact ⟨'-', _, rfl, Or.inl rfl⟩
  | false =>
      cases hdigits : decimalDigits whole with
      | nil => exact absurd hdigits (decimalDigits_ne_nil whole)
      | cons c digits =>
          have hdigit : c.isDigit = true :=
            isDigit_of_mem_decimalDigits whole c (by simp [hdigits])
          exact ⟨c, digits ++ (fractionText fraction ++ exponentText exponent),
            by simp [text, hdigits], Or.inr hdigit⟩

end Number

end Json

end CardListing
