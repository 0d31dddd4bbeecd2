import CardListing.Json.Basic

/-!
Values as their types declare them: by the names of fields and variants, and with what is
declared optional. Every such value is a JSON value.
-/

namespace CardListing

inductive Declared where
  | number (n : Nat)
  | text (content : Text)
  /-- An optional value that is not there. -/
  | absent
  /-- An optional value that is there. -/
  | present (value : Declared)
  | list (items : List Declared)
  /-- Fields by name, in the order of their declaration. -/
  | record (fields : List (String × Declared))
  /-- One of several variants that have no content. -/
  | choice (variant : String)
  /-- One of several variants whose content is a record. The variant is told by a tag. -/
  | tagged (tag : String) (variant : String) (fields : List (String × Declared))

namespace Declared

/-- Optional text. -/
def ofContent : Option Text → Declared
  | none => absent
  | some content => present (text content)

mutual

/-- The JSON value of a declared one. A tag is a field before those of the content. -/
def toJson : Declared → Json
  | number n => .natural n
  | text content => .string content
  | absent => .null
  | present value => toJson value
  | list items => .array (itemsToJson items)
  | record fields => .object (fieldsToJson fields)
  | choice variant => .string variant.toList
  | tagged tag variant fields =>
    .object ((some tag.toList, .string variant.toList) :: fieldsToJson fields)

def itemsToJson : List Declared → List Json
  | [] => []
  | item :: later => toJson item :: itemsToJson later

def fieldsToJson : List (String × Declared) → List (Option Text × Json)
  | [] => []
  | (name, value) :: later => (some name.toList, toJson value) :: fieldsToJson later

end

end Declared

end CardListing
