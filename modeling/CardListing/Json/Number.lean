import CardListing.Numeral

/-!
Number literals of JSON: a sign, a whole part without leading zeros, and optionally the
digits of a fraction and a decimal exponent.
-/

namespace CardListing

namespace Json

/-- A number as it is written. -/
structure Number where
  negative : Bool := false
  whole : Nat
  /-- The digits after the point; there is no point if there are none. -/
  fraction : List (Fin 10) := []
  /-- The power of ten, if one is written. -/
  exponent : Option Int := none
deriving DecidableEq, Repr

def digit? (c : Char) : Option (Fin 10) :=
  let value := c.toNat - '0'.toNat
  if h : c.isDigit = true ∧ value < 10 then some ⟨value, h.2⟩ else none

namespace Number

def isInteger (number : Number) : Bool :=
  number.fraction.isEmpty && number.exponent.isNone

/-- The number that the digits at the front of a text spell, and the text after them. -/
def readNatural? (text : Text) : Option (Nat × Text) :=
  let digits := text.takeWhile Char.isDigit
  if digits = [] then none
  else some (Nat.ofDigitChars 10 digits 0, text.dropWhile Char.isDigit)

/-- The number before the point, which has no leading zeros, and the text after it. -/
def readWhole? (text : Text) : Option (Nat × Text) :=
  let digits := text.takeWhile Char.isDigit
  if digits.head? = some '0' ∧ digits.length ≠ 1 then none else readNatural? text

/-- The digits of a fraction and the text after them. Without a point there are none; with
a point there is at least one. -/
def readFraction? : Text → Option (List (Fin 10) × Text)
  | [] => some ([], [])
  | c :: rest =>
    if c = '.' then
      if rest.takeWhile Char.isDigit = [] then none
      else
        ((rest.takeWhile Char.isDigit).mapM digit?).map (·, rest.dropWhile Char.isDigit)
    else some ([], c :: rest)

/-- An integer, which may have a sign of either kind, and the text after it. -/
def readSigned? : Text → Option (Int × Text)
  | '-' :: rest => (readNatural? rest).map fun found => (-(found.1 : Int), found.2)
  | '+' :: rest => (readNatural? rest).map fun found => ((found.1 : Int), found.2)
  | rest => (readNatural? rest).map fun found => ((found.1 : Int), found.2)

/-- The exponent after a mark and the text after it. Without a mark there is none. -/
def readExponent? : Text → Option (Option Int × Text)
  | [] => some (none, [])
  | c :: rest =>
    if c = 'e' ∨ c = 'E' then (readSigned? rest).map fun found => (some found.1, found.2)
    else some (none, c :: rest)

/-- The number of a literal without its sign, and the text after it. -/
def readUnsigned? (negative : Bool) (text : Text) : Option (Number × Text) :=
  (readWhole? text).bind fun (whole, rest) =>
    (readFraction? rest).bind fun (fraction, rest) =>
      (readExponent? rest).map fun (exponent, rest) =>
        ({ negative, whole, fraction, exponent }, rest)

/-- The number of the literal at the front of a text, and the text after it. Every part of
the literal is as long as possible; a part that is begun has to be complete. -/
def read? : Text → Option (Number × Text)
  | '-' :: rest => readUnsigned? true rest
  | text => readUnsigned? false text

theorem length_lt_of_readNatural? {text rest : Text} {n : Nat}
    (h : readNatural? text = some (n, rest))
    : rest.length < text.length := by
  have hsplit : (text.takeWhile Char.isDigit).length + (text.dropWhile Char.isDigit).length
      = text.length := by
    rw [← List.length_append, List.takeWhile_append_dropWhile]
  simp only [readNatural?] at h
  split at h
  · cases h
  · rename_i hdigits
    have := List.length_pos_iff.mpr hdigits
    obtain ⟨-, rfl⟩ := Prod.mk.inj (Option.some.inj h)
    omega

theorem length_le_of_readFraction? {text rest : Text} {digits : List (Fin 10)}
    (h : readFraction? text = some (digits, rest))
    : rest.length ≤ text.length := by
  cases text with
  | nil =>
      obtain ⟨-, rfl⟩ := Prod.mk.inj (Option.some.inj h)
      exact Nat.le_refl _
  | cons c text =>
      rw [readFraction?] at h
      split at h
      · split at h
        · cases h
        · obtain ⟨_, -, hrest⟩ := Option.map_eq_some_iff.mp h
          obtain ⟨-, rfl⟩ := Prod.mk.inj hrest
          exact Nat.le_succ_of_le (List.dropWhile_sublist _).length_le
      · obtain ⟨-, rfl⟩ := Prod.mk.inj (Option.some.inj h)
        exact Nat.le_refl _

theorem length_lt_of_readSigned? {text rest : Text} {n : Int}
    (h : readSigned? text = some (n, rest))
    : rest.length < text.length := by
  unfold readSigned? at h
  split at h
  all_goals
    obtain ⟨found, hfound, hrest⟩ := Option.map_eq_some_iff.mp h
    obtain ⟨-, rfl⟩ := Prod.mk.inj hrest
    have hlt := length_lt_of_readNatural? hfound
  · exact Nat.lt_succ_of_lt hlt
  · exact Nat.lt_succ_of_lt hlt
  · exact hlt

theorem length_le_of_readExponent? {text rest : Text} {exponent : Option Int}
    (h : readExponent? text = some (exponent, rest))
    : rest.length ≤ text.length := by
  cases text with
  | nil =>
      obtain ⟨-, rfl⟩ := Prod.mk.inj (Option.some.inj h)
      exact Nat.le_refl _
  | cons c text =>
      rw [readExponent?] at h
      split at h
      · obtain ⟨_, hfound, hrest⟩ := Option.map_eq_some_iff.mp h
        obtain ⟨-, rfl⟩ := Prod.mk.inj hrest
        exact Nat.le_succ_of_le (Nat.le_of_lt (length_lt_of_readSigned? hfound))
      · obtain ⟨-, rfl⟩ := Prod.mk.inj (Option.some.inj h)
        exact Nat.le_refl _

theorem length_lt_of_readUnsigned? {negative : Bool} {text rest : Text} {number : Number}
    (h : readUnsigned? negative text = some (number, rest))
    : rest.length < text.length := by
  obtain ⟨⟨whole, first⟩, hwhole, h⟩ := Option.bind_eq_some_iff.mp h
  obtain ⟨⟨fraction, second⟩, hfraction, h⟩ := Option.bind_eq_some_iff.mp h
  obtain ⟨⟨exponent, third⟩, hexponent, h⟩ := Option.map_eq_some_iff.mp h
  obtain ⟨-, rfl⟩ := Prod.mk.inj h
  simp only [readWhole?] at hwhole
  split at hwhole
  · cases hwhole
  · have := length_lt_of_readNatural? hwhole
    have := length_le_of_readFraction? hfraction
    have := length_le_of_readExponent? hexponent
    omega

theorem length_lt_of_read? {text rest : Text} {number : Number}
    (h : read? text = some (number, rest))
    : rest.length < text.length := by
  unfold read? at h
  split at h
  · exact Nat.lt_succ_of_lt (length_lt_of_readUnsigned? h)
  · exact length_lt_of_readUnsigned? h

/-- The digits after the point, with the point, unless there are none. -/
def fractionText : List (Fin 10) → Text
  | [] => []
  | digits => '.' :: digits.map fun d => d.val.digitChar

/-- An exponent with its mark, unless there is none. -/
def exponentText : Option Int → Text
  | none => []
  | some (.ofNat n) => 'e' :: decimalDigits n
  | some (.negSucc n) => 'e' :: '-' :: decimalDigits (n + 1)

def text (number : Number) : Text :=
  (if number.negative then ['-'] else []) ++ decimalDigits number.whole
    ++ fractionText number.fraction ++ exponentText number.exponent

end Number

end Json

end CardListing
