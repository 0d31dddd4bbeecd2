import CardListing.Json.Number

/-!
JSON values. Members of an object keep the order of the text and their names may repeat.
A string usually has a text; it has none if an escape in it names half of a surrogate pair
without the other half.
-/

namespace CardListing

namespace Json

/-- A value without parts. -/
inductive Scalar where
  | null
  | bool (value : Bool)
  | number (value : Number)
  | string (text : Option Text)
deriving DecidableEq, Repr

end Json

inductive Json where
  | scalar (value : Json.Scalar)
  | array (items : List Json)
  | object (members : List (Option Text × Json))

namespace Json

def null : Json := scalar .null

def string (text : Text) : Json := scalar (.string (some text))

def natural (n : Nat) : Json := scalar (.number { whole := n })

end Json

end CardListing
