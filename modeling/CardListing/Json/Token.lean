import CardListing.Json.Basic
import CardListing.Json.Quoted

/-!
The tokens of JSON. Between two tokens there may be white space, which here is only the
space, the tab and the two line end characters. A text is scanned up to the first place
where no token begins; that place is kept as a token of its own, so that what is written
before it can be understood.
-/

namespace CardListing

namespace Json

inductive Token where
  | openBracket
  | closeBracket
  | openBrace
  | closeBrace
  | colon
  | comma
  | scalar (value : Scalar)
  /-- Text that is no token, by its first character. -/
  | stray (c : Char)
deriving DecidableEq, Repr

def isGap (c : Char) : Bool := c = ' ' || c = '\t' || c = '\n' || c = '\r'

/-- The token that is a single character of punctuation. -/
def punctuation? : Char → Option Token
  | '[' => some .openBracket
  | ']' => some .closeBracket
  | '\x7b' => some .openBrace
  | '\x7d' => some .closeBrace
  | ':' => some .colon
  | ',' => some .comma
  | _ => none

/-- The value that the word at the front of a text stands for, and the text after it. -/
def Scalar.readWord? : Text → Option (Scalar × Text)
  | 'n' :: 'u' :: 'l' :: 'l' :: rest => some (.null, rest)
  | 't' :: 'r' :: 'u' :: 'e' :: rest => some (.bool true, rest)
  | 'f' :: 'a' :: 'l' :: 's' :: 'e' :: rest => some (.bool false, rest)
  | _ => none

theorem Scalar.length_lt_of_readWord? {text rest : Text} {s : Scalar}
    (h : readWord? text = some (s, rest))
    : rest.length < text.length := by
  unfold readWord? at h
  split at h <;> simp_all <;> omega

/-- The token at the front of a text, and the text after it. -/
def Token.read? : Text → Option (Token × Text)
  | [] => none
  | c :: rest =>
    if c = '-' ∨ c.isDigit then
      (Number.read? (c :: rest)).map fun found => (.scalar (.number found.1), found.2)
    else if c = '"' then
      (readUnits? [] rest).map fun found =>
        (.scalar (.string (StringUnit.text? found.1)), found.2)
    else
      match punctuation? c with
      | some token => some (token, rest)
      | none => (Scalar.readWord? (c :: rest)).map fun found => (.scalar found.1, found.2)

def Scalar.text : Scalar → Text
  | null => "null".toList
  | bool true => "true".toList
  | bool false => "false".toList
  | number n => n.text
  | string s => quote s

def Token.text : Token → Text
  | openBracket => ['[']
  | closeBracket => [']']
  | openBrace => ['\x7b']
  | closeBrace => ['\x7d']
  | colon => [':']
  | comma => [',']
  | scalar s => s.text
  | stray c => [c]

end Json

end CardListing
