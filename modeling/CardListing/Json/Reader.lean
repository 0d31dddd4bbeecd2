import CardListing.Json.Scan

/-!
Reading JSON values from tokens, as the grammar of JSON has them. The reader keeps the arrays
and objects it is inside of, innermost first, each with what it has read of it. It alternates
between two situations: a value is due, or one has just been read. It stops after the first
complete value.
-/

namespace CardListing

namespace Json

/-- An array or object under way. What has been read of it is kept in reverse. -/
inductive Frame where
  | items (before : List Json)
  | members (before : List (Option Text × Json)) (name : Option Text)

mutual

/-- Reads on where a value is due. -/
def readDue? : List Frame → List Token → Option (Json × List Token)
  | frames, .scalar s :: rest => readOn? (scalar s) frames rest
  | frames, .openBracket :: .closeBracket :: rest => readOn? (array []) frames rest
  | frames, .openBracket :: rest => readDue? (.items [] :: frames) rest
  | frames, .openBrace :: .closeBrace :: rest => readOn? (object []) frames rest
  | frames, .openBrace :: .scalar (.string name) :: .colon :: rest =>
    readDue? (.members [] name :: frames) rest
  | _, _ => none

/-- Reads on after a value. -/
def readOn? : Json → List Frame → List Token → Option (Json × List Token)
  | value, [], rest => some (value, rest)
  | value, .items before :: frames, .comma :: rest =>
    readDue? (.items (value :: before) :: frames) rest
  | value, .items before :: frames, .closeBracket :: rest =>
    readOn? (array (value :: before).reverse) frames rest
  | value, .members before name :: frames,
      .comma :: .scalar (.string next) :: .colon :: rest =>
    readDue? (.members ((name, value) :: before) next :: frames) rest
  | value, .members before name :: frames, .closeBrace :: rest =>
    readOn? (object ((name, value) :: before).reverse) frames rest
  | _, _, _ => none

end

/-- The value at the front of the tokens, and the tokens after it. -/
def readValue? (tokens : List Token) : Option (Json × List Token) := readDue? [] tokens

mutual

/-- A value takes up some of the tokens, by induction on them. -/
theorem length_lt_of_readDue?
    : {frames : List Frame} → {tokens rest : List Token} → {json : Json}
      → readDue? frames tokens = some (json, rest)
      → rest.length < tokens.length
  | frames, tokens, rest, json, h => by
      unfold readDue? at h
      split at h
      · exact Nat.lt_succ_of_le (length_le_of_readOn? h)
      · exact Nat.lt_succ_of_le (Nat.le_succ_of_le (length_le_of_readOn? h))
      · exact Nat.lt_succ_of_lt (length_lt_of_readDue? h)
      · exact Nat.lt_succ_of_le (Nat.le_succ_of_le (length_le_of_readOn? h))
      · exact Nat.lt_succ_of_lt
          (Nat.lt_succ_of_lt (Nat.lt_succ_of_lt (length_lt_of_readDue? h)))
      · cases h

/-- After a value no tokens are added, by induction on them. -/
theorem length_le_of_readOn?
    : {value : Json} → {frames : List Frame} → {tokens rest : List Token} → {json : Json}
      → readOn? value frames tokens = some (json, rest)
      → rest.length ≤ tokens.length
  | value, frames, tokens, rest, json, h => by
      unfold readOn? at h
      split at h
      · obtain ⟨-, rfl⟩ := Prod.mk.inj (Option.some.inj h)
        exact Nat.le_refl _
      · exact Nat.le_succ_of_le (Nat.le_of_lt (length_lt_of_readDue? h))
      · exact Nat.le_succ_of_le (length_le_of_readOn? h)
      · exact Nat.le_succ_of_le (Nat.le_succ_of_le
          (Nat.le_succ_of_le (Nat.le_of_lt (length_lt_of_readDue? h))))
      · exact Nat.le_succ_of_le (length_le_of_readOn? h)
      · cases h

end

/-- The value that the tokens are, if they are one value. -/
def ofTokens? (tokens : List Token) : Option Json :=
  match readValue? tokens with
  | some (json, []) => some json
  | _ => none

/-- The value that a text is by the grammar of JSON: one value with nothing but gaps around it. -/
def read? (text : Text) : Option Json := ofTokens? (Token.scan text)

end Json

end CardListing
