import CardListing.Json.Reader
import CardListing.Word.Json

/-!
Words read from JSON text. The text is decoded from its front, so that the first fault
decides, whatever follows it: a group that is no number of 16 bits is refused before the
text after it is looked at, and a word that is too wide before the text after the word.
Only the values of members that do not belong to a word have to be passed over whole.
-/

namespace CardListing

open Json (DecodeError Token)

namespace Word

/-- The value of a group at the front of the tokens, and the tokens after it. -/
def readPart : List Token → Except DecodeError (UInt16 × List Token)
  | [] => .error .malformed
  | token :: rest => do
    let part ← partOfFound token.found?
    return (part, rest)

/-- An item of an array after some others, and the tokens after it. -/
def readItem (before : Nat) : List Token → Except DecodeError (UInt16 × List Token)
  | .closeBracket :: _ => .error (.wrongLength before)
  | .comma :: rest => if before = 0 then .error .malformed else readPart rest
  | tokens => if before = 0 then readPart tokens else .error .malformed

/-- The groups in an array up to its end, which follows the fourth item. -/
def readItems (tokens : List Token)
    : Except DecodeError (WordDefinition × List Token) := do
  let (command, tokens) ← readItem 0 tokens
  let (a, tokens) ← readItem 1 tokens
  let (b, tokens) ← readItem 2 tokens
  let (c, tokens) ← readItem 3 tokens
  match tokens with
  | .closeBracket :: rest => return (⟨command, a, b, c⟩, rest)
  | _ => .error .malformed

/-- A member after its name: the groups found with it, and the tokens after it. -/
def readMember (seen : WordGroups (Option UInt16)) (name : Text) (tokens : List Token)
    : Except DecodeError (WordGroups (Option UInt16) × List Token) :=
  match WordGroup.ofName? (String.ofList name), tokens with
  | none, .colon :: rest =>
    match Json.readValue? rest with
    | some (_, rest) => .ok (seen, rest)
    | none => .error .malformed
  | none, _ => .error .malformed
  | some group, tokens =>
    if (seen.get group).isSome then
      .error (.duplicateMember group.name)
    else
      match tokens with
      | .colon :: rest => do
        let (part, rest) ← readPart rest
        return (seen.set group (some part), rest)
      | _ => .error .malformed

theorem length_lt_of_readPart {tokens rest : List Token} {part : UInt16}
    (h : readPart tokens = .ok (part, rest))
    : rest.length < tokens.length := by
  cases tokens with
  | nil => cases h
  | cons token tokens =>
      simp only [readPart] at h
      cases hpart : partOfFound token.found? with
      | error e =>
          rw [hpart] at h
          cases h
      | ok found =>
          rw [hpart] at h
          cases h
          exact Nat.lt_succ_self _

theorem length_lt_of_readMember {seen found : WordGroups (Option UInt16)} {name : Text}
    {tokens rest : List Token} (h : readMember seen name tokens = .ok (found, rest))
    : rest.length < tokens.length := by
  unfold readMember at h
  split at h
  · split at h
    · rename_i hvalue
      cases h
      exact Nat.lt_succ_of_lt (Json.length_lt_of_readDue? hvalue)
    · cases h
  · cases h
  · split at h
    · cases h
    · split at h
      · rename_i later
        cases hpart : readPart later with
        | error e =>
            rw [hpart] at h
            cases h
        | ok found =>
            rw [hpart] at h
            cases h
            exact Nat.lt_succ_of_lt (length_lt_of_readPart hpart)
      · cases h

/-- The members of an object after the first ones, up to its end: the groups found in them
and before, and the tokens after the object. -/
def readLaterMembers (seen : WordGroups (Option UInt16))
    : List Token → Except DecodeError (WordGroups (Option UInt16) × List Token)
  | .closeBrace :: rest => .ok (seen, rest)
  | .comma :: .scalar (.string (some name)) :: rest =>
    match _hmember : readMember seen name rest with
    | .ok (found, later) => readLaterMembers found later
    | .error error => .error error
  | _ => .error .malformed
termination_by tokens => tokens.length
decreasing_by
  exact Nat.lt_succ_of_lt (Nat.lt_succ_of_lt (length_lt_of_readMember _hmember))

/-- A further member is read after a comma, and then those after it. -/
theorem readLaterMembers_comma (seen : WordGroups (Option UInt16)) (name : Text)
    (rest : List Token)
    : readLaterMembers seen (.comma :: .scalar (.string (some name)) :: rest)
      = (readMember seen name rest).bind fun found => readLaterMembers found.1 found.2 := by
  rw [readLaterMembers]
  split
  · rename_i h
    rw [h]
    rfl
  · rename_i h
    rw [h]
    rfl

/-- The members of an object up to its end: the groups found in them, and the tokens after
the object. -/
def readMembers : List Token
    → Except DecodeError (WordGroups (Option UInt16) × List Token)
  | .closeBrace :: rest => .ok (.ofFn fun _ => none, rest)
  | .scalar (.string (some name)) :: rest => do
    let (seen, rest) ← readMember (.ofFn fun _ => none) name rest
    readLaterMembers seen rest
  | _ => .error .malformed

/-- The definition at the front of the tokens, and the tokens after it. -/
def readParts : List Token → Except DecodeError (WordDefinition × List Token)
  | .openBracket :: rest => readItems rest
  | .openBrace :: rest => do
    let (seen, rest) ← readMembers rest
    let definition ← foundParts seen
    return (definition, rest)
  | token :: _ => .error (.mismatch .word token.found?)
  | [] => .error .malformed

/-- Nothing follows. -/
def readEnd : List Token → Except DecodeError Unit
  | [] => .ok ()
  | _ :: _ => .error .malformed

end Word

/-- The decoder that reads a definition token by token. -/
def DefinitionDecoder.tokenwise : DefinitionDecoder where
  Rest := List Token
  float? := Json.Number.float?
  part := Word.partOfJson
  members := Word.definitionOfMembers
  items := Word.definitionOfItems
  read text := Word.readParts (Token.scan text)
  finish := Word.readEnd

/-- The word that a JSON text encodes. -/
def Word.ofJsonText : Text → Except DecodeError Word := ofText .tokenwise

end CardListing
