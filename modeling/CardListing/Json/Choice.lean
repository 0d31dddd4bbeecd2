import CardListing.CardField
import CardListing.Json.DecodeError
import CardListing.Json.Scan

/-!
Decoding a choice among named alternatives. A choice is written as its name, or as an
object with that name alone and null under it. The text is decoded from its front, so the
first fault decides, whatever follows it.
-/

namespace CardListing

namespace Json

def named {α : Type} (all : List α) (name : α → String) (text : Text)
    : Except DecodeError α :=
  match all.find? fun x => (name x).toList = text with
  | some x => .ok x
  | none => .error (.unknownName text (all.map name))

/-- Null under the name of an alternative, up to the end of the object. -/
def readNothing : List Token → Except DecodeError (List Token)
  | .colon :: .scalar .null :: .closeBrace :: rest => .ok rest
  | .colon :: .scalar .null :: _ => .error .malformed
  | .colon :: token :: _ => .error (.mismatch .nothing token.found?)
  | _ => .error .malformed

/-- The alternative at the front of the tokens, and the tokens after it. -/
def readChoice {α : Type} (all : List α) (name : α → String)
    : List Token → Except DecodeError (α × List Token)
  | .scalar (.string (some text)) :: rest => do
    let x ← named all name text
    return (x, rest)
  | .openBrace :: .scalar (.string (some text)) :: rest => do
    let x ← named all name text
    let rest ← readNothing rest
    return (x, rest)
  | _ => .error .malformed

def choiceOfText {α : Type} (all : List α) (name : α → String) (text : Text)
    : Except DecodeError α := do
  let (x, rest) ← readChoice all name (Token.scan text)
  if rest.isEmpty then return x else .error .malformed

end Json

def CardField.ofJsonText : Text → Except Json.DecodeError CardField :=
  Json.choiceOfText CardField.all CardField.name

def WordGroup.ofJsonText : Text → Except Json.DecodeError WordGroup :=
  Json.choiceOfText WordGroup.all WordGroup.name

end CardListing
