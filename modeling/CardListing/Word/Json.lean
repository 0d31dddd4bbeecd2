import CardListing.Json.Encoder
import CardListing.Word.Decoder

/-!
Words in JSON values. A definition is written as an object with its groups as members. It is
read from such an object, whatever the order of the members and with any others among them, or
from an array of the four groups in order. Faults are found in the order of the value, except
that a missing group is noticed at the end.
-/

namespace CardListing

def WordDefinition.declared (definition : WordDefinition) : Declared :=
  .record
    [("command", .number definition.command.toNat), ("a", .number definition.a.toNat),
      ("b", .number definition.b.toNat), ("c", .number definition.c.toNat)]

namespace Word

open Json (DecodeError)

/-- A word as it is declared: by its definition. -/
def declared (word : Word) : Declared := (WordDefinition.ofWord word).declared

def toJson (word : Word) : Json := word.declared.toJson

/-- The value of a group: an integer of 16 bits. -/
def partOfFound : Option Json.Found → Except DecodeError UInt16
  | some (.integer n) =>
    if 0 ≤ n ∧ n < UInt16.size then .ok (UInt16.ofNat n.toNat) else .error (.outOfRange n .part)
  | found => .error (.mismatch .part found)

/-- The value of a group that a value is. -/
def partOfJson (json : Json) : Except DecodeError UInt16 := partOfFound json.found?

/-- The groups found in the members of an object, with those found before them. Members
with other names do not matter. -/
def scanMembers (seen : WordGroups (Option UInt16))
    : List (Option Text × Json) → Except DecodeError (WordGroups (Option UInt16))
  | [] => .ok seen
  | (none, _) :: _ => .error .malformed
  | (some name, value) :: rest =>
    match WordGroup.ofName? (String.ofList name) with
    | none => scanMembers seen rest
    | some group =>
      if (seen.get group).isSome then
        .error (.duplicateMember group.name)
      else do
        let part ← partOfJson value
        scanMembers (seen.set group (some part)) rest

def foundPart (seen : WordGroups (Option UInt16)) (group : WordGroup)
    : Except DecodeError UInt16 :=
  match seen.get group with
  | some part => .ok part
  | none => .error (.missingMember group.name)

def foundParts (seen : WordGroups (Option UInt16)) : Except DecodeError WordDefinition := do
  let command ← foundPart seen .command
  let a ← foundPart seen .a
  let b ← foundPart seen .b
  let c ← foundPart seen .c
  return ⟨command, a, b, c⟩

/-- The definition that the members of an object make, with the groups found before them. -/
def definitionOfMembers (seen : WordGroups (Option UInt16))
    (members : List (Option Text × Json))
    : Except DecodeError WordDefinition := do
  foundParts (← scanMembers seen members)

/-- The definition that the items of an array make, with those before them. There are no items
after the fourth. -/
def definitionOfItems (before : List UInt16) : List Json → Except DecodeError WordDefinition
  | [] =>
    match before with
    | [command, a, b, c] => .ok ⟨command, a, b, c⟩
    | _ => .error (.wrongLength before.length)
  | item :: later =>
    if before.length < 4 then do
      let part ← partOfJson item
      definitionOfItems (before ++ [part]) later
    else .error .malformed

end Word

end CardListing
