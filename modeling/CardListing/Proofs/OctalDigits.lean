import CardListing.Numeral
import Mathlib.Algebra.Order.Group.Nat
import Mathlib.Tactic.Ring

/-! Octal digits as a positional notation. A text of octal digits is told by its length and the
number that it spells, so two ways to write the same number in as many places are one; and
what stands behind a text adds to its number without carrying.
-/

namespace CardListing

def IsOctalDigit (c : Char) : Prop := ∃ d : Nat, d < 8 ∧ c = d.digitChar

/-- The number that octal digits spell. -/
def readOctal (text : Text) : Nat := Nat.ofDigitChars 8 text 0

/-- The text spells the number in so many octal digits. -/
structure IsOctalField (text : Text) (places number : Nat) : Prop where
  length : text.length = places
  digits : ∀ c ∈ text, IsOctalDigit c
  reads : readOctal text = number

/-- The text is the numeral of a number: its octal digits, with no zero before them but the one
that zero is written with.
-/
structure IsOctalNumeral (text : Text) (number : Nat) : Prop where
  nonempty : text ≠ []
  digits : ∀ c ∈ text, IsOctalDigit c
  reads : readOctal text = number
  leading : text.head? = some '0' → text = ['0']

-----------------------------------------------------------------------------------------
-- Reading
-----------------------------------------------------------------------------------------

/-- Digits that are read before a text weigh as much as it has places, by induction on it. -/
theorem ofDigitChars_eq_add_readOctal (text : Text) (before : Nat)
    : Nat.ofDigitChars 8 text before = before * 8 ^ text.length + readOctal text := by
  induction text generalizing before with
  | nil => simp [readOctal, Nat.ofDigitChars_nil]
  | cons c rest ih =>
      rw [readOctal, Nat.ofDigitChars_cons, Nat.ofDigitChars_cons, ih, ih (8 * 0 + _),
        List.length_cons, Nat.pow_succ]
      ring

theorem readOctal_append (high low : Text)
    : readOctal (high ++ low) = readOctal high * 8 ^ low.length + readOctal low := by
  rw [readOctal, Nat.ofDigitChars_append, ofDigitChars_eq_add_readOctal]
  rfl

theorem readOctal_cons {d : Nat} (h : d < 8) (rest : Text)
    : readOctal (d.digitChar :: rest) = d * 8 ^ rest.length + readOctal rest := by
  rw [readOctal, Nat.ofDigitChars_cons_digitChar_of_lt_ten (by omega),
    ofDigitChars_eq_add_readOctal, Nat.mul_zero, Nat.zero_add]

theorem readOctal_replicate_zero_append (count : Nat) (text : Text)
    : readOctal (List.replicate count '0' ++ text) = readOctal text := by
  rw [readOctal, Nat.ofDigitChars_append, Nat.ofDigitChars_replicate_zero, Nat.mul_zero, readOctal]

@[simp] theorem readOctal_octalDigits (n : Nat) : readOctal (octalDigits n) = n :=
  Nat.ofDigitChars_toDigits (by decide) (by decide)

/-- A text of octal digits spells less than the weight of a further digit, by induction on it. -/
theorem readOctal_lt {text : Text} (digits : ∀ c ∈ text, IsOctalDigit c)
    : readOctal text < 8 ^ text.length := by
  induction text with
  | nil => decide
  | cons c rest ih =>
      obtain ⟨d, small, rfl⟩ := digits c List.mem_cons_self
      have bound := ih fun c among => digits c (List.mem_cons_of_mem _ among)
      rw [readOctal_cons small, List.length_cons, Nat.pow_succ]
      calc
        d * 8 ^ rest.length + readOctal rest < d * 8 ^ rest.length + 8 ^ rest.length := by omega
        _ = (d + 1) * 8 ^ rest.length := (Nat.succ_mul _ _).symm
        _ ≤ 8 * 8 ^ rest.length := Nat.mul_le_mul_right _ small
        _ = 8 ^ rest.length * 8 := Nat.mul_comm _ _

/-- The first digit is the quotient by the weight of its place, since the rest spells less. -/
theorem readOctal_cons_div {d : Nat} (h : d < 8) {rest : Text}
    (digits : ∀ c ∈ rest, IsOctalDigit c)
    : readOctal (d.digitChar :: rest) / 8 ^ rest.length = d := by
  rw [readOctal_cons h, Nat.mul_comm, Nat.mul_add_div (Nat.pow_pos (by decide)),
    Nat.div_eq_of_lt (readOctal_lt digits), Nat.add_zero]

-----------------------------------------------------------------------------------------
-- Fields
-----------------------------------------------------------------------------------------

/-- A number has one text in a field of given size. By induction on the text, whose first digit the
number determines.
-/
theorem IsOctalField.eq {text other : Text} {places number : Nat}
    (h : IsOctalField text places number) (h' : IsOctalField other places number)
    : text = other := by
  induction text generalizing other places number with
  | nil => exact (List.eq_nil_of_length_eq_zero (h'.length.trans h.length.symm)).symm
  | cons c rest ih =>
      obtain ⟨length, digits, reads⟩ := h
      obtain ⟨length', digits', reads'⟩ := h'
      cases other with
      | nil =>
          rw [← length'] at length
          cases length
      | cons c' rest' =>
          obtain ⟨d, small, rfl⟩ := digits c List.mem_cons_self
          obtain ⟨d', small', rfl⟩ := digits' c' List.mem_cons_self
          have later := fun c among => digits c (List.mem_cons_of_mem _ among)
          have later' := fun c among => digits' c (List.mem_cons_of_mem _ among)
          have same : rest'.length = rest.length := by
            simp only [List.length_cons] at length length'
            omega
          obtain rfl : d = d' := by
            rw [← readOctal_cons_div small later, reads, ← reads', ← same,
              readOctal_cons_div small' later']
          rw [readOctal_cons small] at reads
          rw [readOctal_cons small', same] at reads'
          rw [ih ⟨rfl, later, rfl⟩ ⟨same, later', by omega⟩]

theorem IsOctalField.append {high low : Text} {highPlaces lowPlaces highNumber lowNumber : Nat}
    (h : IsOctalField high highPlaces highNumber) (h' : IsOctalField low lowPlaces lowNumber)
    : IsOctalField (high ++ low) (highPlaces + lowPlaces)
        (highNumber * 8 ^ lowPlaces + lowNumber) where
  length := by rw [List.length_append, h.length, h'.length]
  digits c among := (List.mem_append.mp among).elim (h.digits c) (h'.digits c)
  reads := by rw [readOctal_append, h.reads, h'.reads, h'.length]

-----------------------------------------------------------------------------------------
-- Numerals
-----------------------------------------------------------------------------------------

theorem isOctalDigit_zero : IsOctalDigit '0' := ⟨0, by decide, rfl⟩

/-- A numeral consists of octal digits, by strong induction on the number. -/
theorem isOctalDigit_of_mem_octalDigits (n : Nat) : ∀ c ∈ octalDigits n, IsOctalDigit c := by
  induction n using Nat.strongRecOn with
  | ind n ih =>
      intro c among
      by_cases small : n < 8
      · rw [octalDigits, Nat.toDigits_of_lt_base small] at among
        exact ⟨n, small, List.mem_singleton.mp among⟩
      · have split : octalDigits n = octalDigits (n / 8) ++ [(n % 8).digitChar] :=
          Nat.toDigits_of_base_le (by decide) (by omega)
        rw [split] at among
        rcases List.mem_append.mp among with high | last
        · exact ih (n / 8) (by omega) c high
        · exact ⟨n % 8, Nat.mod_lt _ (by decide), List.mem_singleton.mp last⟩

theorem length_octalDigits_le {n places : Nat} (positive : 0 < places) (h : n < 8 ^ places)
    : (octalDigits n).length ≤ places :=
  (Nat.length_toDigits_le_iff (by decide) positive).mpr h

/-- Only zero is written with a leading zero: the digits behind one would spell the number in
fewer places.
-/
theorem eq_zero_of_head?_octalDigits {n : Nat} (h : (octalDigits n).head? = some '0') : n = 0 := by
  obtain ⟨rest, split⟩ := List.head?_eq_some_iff.mp h
  have reads : readOctal rest = n := by
    rw [← readOctal_octalDigits n, split]
    exact (readOctal_replicate_zero_append 1 rest).symm
  cases rest with
  | nil => exact reads.symm
  | cons c later =>
      have digits := isOctalDigit_of_mem_octalDigits n
      rw [split] at digits
      have bound := readOctal_lt fun c among => digits c (List.mem_cons_of_mem _ among)
      rw [reads] at bound
      have fewer := length_octalDigits_le (Nat.succ_pos _) bound
      rw [split, List.length_cons] at fewer
      exact (Nat.not_succ_le_self _ fewer).elim

theorem isOctalNumeral_octalDigits (n : Nat) : IsOctalNumeral (octalDigits n) n where
  nonempty := Nat.toDigits_ne_nil
  digits := isOctalDigit_of_mem_octalDigits n
  reads := readOctal_octalDigits n
  leading zero := by
    rw [eq_zero_of_head?_octalDigits zero]
    rfl

/-- Zeros before a numeral that has at most as many digits fill a field with its number. -/
theorem isOctalField_leftpad {n places : Nat} (positive : 0 < places) (h : n < 8 ^ places)
    : IsOctalField ((octalDigits n).leftpad places '0') places n where
  length := by rw [List.length_leftpad, Nat.max_eq_left (length_octalDigits_le positive h)]
  digits c among := by
    rcases List.mem_append.mp among with zero | digit
    · rw [List.eq_of_mem_replicate zero]
      exact isOctalDigit_zero
    · exact isOctalDigit_of_mem_octalDigits n c digit
  reads := by rw [List.leftpad, readOctal_replicate_zero_append, readOctal_octalDigits]

/-- Without the zeros before it, a field is the numeral again. -/
theorem dropWhile_leftpad_octalDigits {n : Nat} (nonzero : n ≠ 0) (places : Nat)
    : ((octalDigits n).leftpad places '0').dropWhile (· == '0') = octalDigits n := by
  rw [List.leftpad, List.dropWhile_append_of_pos (by simp)]
  cases digits : octalDigits n with
  | nil => rfl
  | cons c rest =>
      have first : c ≠ '0' := fun zero =>
        nonzero (eq_zero_of_head?_octalDigits (by rw [digits, List.head?_cons, zero]))
      rw [List.dropWhile_cons_of_neg (by simpa using first)]

end CardListing
