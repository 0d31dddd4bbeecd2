import CardListing.Json.Token

/-!
Writing JSON values, without white space and with the members of objects in their order.
-/

namespace CardListing

namespace Json

mutual

def tokens : Json → List Token
  | scalar s => [.scalar s]
  | array [] => [.openBracket, .closeBracket]
  | array (item :: later) => .openBracket :: (tokens item ++ laterItems later)
  | object [] => [.openBrace, .closeBrace]
  | object ((name, value) :: later) =>
    .openBrace :: .scalar (.string name) :: .colon :: (tokens value ++ laterMembers later)

/-- The tokens of an array after one of its items. -/
def laterItems : List Json → List Token
  | [] => [.closeBracket]
  | item :: later => .comma :: (tokens item ++ laterItems later)

/-- The tokens of an object after one of its members. -/
def laterMembers : List (Option Text × Json) → List Token
  | [] => [.closeBrace]
  | (name, value) :: later =>
    .comma :: .scalar (.string name) :: .colon :: (tokens value ++ laterMembers later)

end

def print (json : Json) : Text := json.tokens.flatMap Token.text

end Json

end CardListing
