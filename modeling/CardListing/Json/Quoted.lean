import CardListing.Text.Basic

/-!
Strings of JSON between their quotes. Reading accepts every escape of the format; writing
uses only those that are needed.
-/

namespace CardListing

namespace Json

/-- What an escape in a string names: a character, or a 16-bit unit by its number. -/
inductive StringUnit where
  | char (c : Char)
  | unit (n : Nat)
deriving DecidableEq, Repr

/-- The text of a string, if no unit before it waits for its other half. A high surrogate
waits for a low one, and the two name one character; a surrogate that does not meet the other
kind names none. -/
def StringUnit.textAfter? : Option Nat → List StringUnit → Option Text
  | none, [] => some []
  | none, .char c :: rest => (textAfter? none rest).map (c :: ·)
  | none, .unit n :: rest =>
    if n < 0xD800 ∨ 0xDFFF < n then (textAfter? none rest).map (Char.ofNat n :: ·)
    else if n < 0xDC00 then textAfter? (some n) rest
    else none
  | some high, .unit low :: rest =>
    if 0xDC00 ≤ low ∧ low ≤ 0xDFFF then
      (textAfter? none rest).map
        (Char.ofNat (0x10000 + (high - 0xD800) * 0x400 + (low - 0xDC00)) :: ·)
    else none
  | some _, _ => none

/-- The text of a string, unless half a surrogate pair stands alone in it. -/
def StringUnit.text? (units : List StringUnit) : Option Text := textAfter? none units

/-- The character that a one-letter escape names. -/
def escaped? : Char → Option Char
  | '"' => some '"'
  | '\\' => some '\\'
  | '/' => some '/'
  | 'b' => some '\x08'
  | 'f' => some '\x0c'
  | 'n' => some '\n'
  | 'r' => some '\r'
  | 't' => some '\t'
  | _ => none

def hexDigit? (c : Char) : Option Nat :=
  if '0' ≤ c ∧ c ≤ '9' then some (c.toNat - '0'.toNat)
  else if 'a' ≤ c ∧ c ≤ 'f' then some (c.toNat - 'a'.toNat + 10)
  else if 'A' ≤ c ∧ c ≤ 'F' then some (c.toNat - 'A'.toNat + 10)
  else none

def hexNumber? (digits : Text) : Option Nat :=
  digits.foldlM (fun n c => (hexDigit? c).map (16 * n + ·)) 0

/-- The units of a string up to its closing quote, and the text after it. The units before
are kept in reverse. Controls are not allowed. -/
def readUnits? (before : List StringUnit) : Text → Option (List StringUnit × Text)
  | [] => none
  | '"' :: rest => some (before.reverse, rest)
  | '\\' :: 'u' :: a :: b :: c :: d :: rest =>
    match hexNumber? [a, b, c, d] with
    | some n => readUnits? (.unit n :: before) rest
    | none => none
  | '\\' :: c :: rest =>
    match escaped? c with
    | some e => readUnits? (.char e :: before) rest
    | none => none
  | c :: rest => if c < ' ' ∨ c = '\\' then none else readUnits? (.char c :: before) rest

/-- A string takes up some of the text, by following the reading. -/
theorem length_lt_of_readUnits? {before units : List StringUnit} {text rest : Text}
    (h : readUnits? before text = some (units, rest))
    : rest.length < text.length := by
  fun_induction readUnits? before text with
  | case1 => cases h
  | case2 =>
      obtain ⟨-, rfl⟩ := Prod.mk.inj (Option.some.inj h)
      exact Nat.lt_succ_self _
  | case3 before a b c d text n hn ih =>
      have := ih h
      simp only [List.length_cons]
      omega
  | case4 => cases h
  | case5 before c text _ e he ih =>
      have := ih h
      simp only [List.length_cons]
      omega
  | case6 => cases h
  | case7 => cases h
  | case8 before c text _ _ _ _ ih => exact Nat.lt_succ_of_lt (ih h)

/-- A hexadecimal digit, in lower case. -/
def hexDigit (n : Nat) : Char := n.digitChar

/-- A character within a string. Quotes, backslashes and controls are escaped, by a letter
where there is one and by number otherwise. -/
def escape (c : Char) : Text :=
  if c = '"' then ['\\', '"']
  else if c = '\\' then ['\\', '\\']
  else if c = '\x08' then ['\\', 'b']
  else if c = '\t' then ['\\', 't']
  else if c = '\n' then ['\\', 'n']
  else if c = '\x0c' then ['\\', 'f']
  else if c = '\r' then ['\\', 'r']
  else if c < ' ' then
    ['\\', 'u', '0', '0', hexDigit (c.toNat / 16), hexDigit (c.toNat % 16)]
  else [c]

/-- A string in quotes. A string without a text is written as a surrogate alone. -/
def quote : Option Text → Text
  | some text => '"' :: text.flatMap escape ++ ['"']
  | none => ['"', '\\', 'u', 'd', '8', '0', '0', '"']

end Json

end CardListing
