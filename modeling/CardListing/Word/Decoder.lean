import CardListing.Json.DecodeError
import CardListing.Json.Reader
import CardListing.Word.Definition

/-!
Decoders read definitions of words from text. Which decoder is at work is left open; what is
relied on is that it goes through the members of an object and the items of an array in their
order, and what it takes for a number. A word is read by its definition: whether the groups
fit is looked at when the definition is there, and what follows it in the text after that.
-/

namespace CardListing

open Json (DecodeError)

structure DefinitionDecoder where
  /-- What is left of a text. -/
  Rest : Type
  /-- The floating point number that is taken for a literal, if it is not out of range. -/
  float? : Json.Number → Option Double
  /-- The number of 16 bits that a value is. -/
  part : Json → Except DecodeError UInt16
  /-- The definition that members of an object make, together with the numbers that were found
  before them. -/
  members
    : WordGroups (Option UInt16) → List (Option Text × Json) → Except DecodeError WordDefinition
  /-- The definition that items of an array make, together with the numbers before them. -/
  items : List UInt16 → List Json → Except DecodeError WordDefinition
  /-- The definition at the front of a text, and what is left of the text. -/
  read : Text → Except DecodeError (WordDefinition × Rest)
  /-- Whether only gaps are left of a text. -/
  finish : Rest → Except DecodeError Unit

namespace DefinitionDecoder

/-- The decoder reads definitions. A text that is an object or an array is read as its members
or its items from first to last; a member of another name is passed over whatever its value,
and members for different groups and the items of an array give their numbers. -/
structure ReadsDefinitions (decoder : DefinitionDecoder) : Prop where
  object
    : ∀ text members,
        Json.read? text = some (.object members)
        → ∃ rest,
          decoder.read text = (decoder.members (.ofFn fun _ => none) members).map (·, rest)
          ∧ decoder.finish rest = .ok ()
  array
    : ∀ text items,
        Json.read? text = some (.array items)
        → ∃ rest,
          decoder.read text = (decoder.items [] items).map (·, rest)
          ∧ decoder.finish rest = .ok ()
  foreign
    : ∀ seen name value later,
        (∀ group : WordGroup, name ≠ group.name.toList)
        → decoder.members seen ((some name, value) :: later) = decoder.members seen later
  new
    : ∀ seen group value later,
        seen.get group = none
        → decoder.members seen ((some group.name.toList, value) :: later)
          = (decoder.part value).bind fun part =>
              decoder.members (seen.set group (some part)) later
  whole : ∀ given, decoder.members (given.map some) [] = .ok (.ofGroups given)
  item
    : ∀ before item later,
        before.length < 4
        → decoder.items before (item :: later)
          = (decoder.part item).bind fun part => decoder.items (before ++ [part]) later
  four : ∀ given : WordGroups UInt16, decoder.items given.toList [] = .ok (.ofGroups given)
  natural : ∀ part : UInt16, decoder.part (.natural part.toNat) = .ok part

/-- The decoder notices what is wrong with a definition, where it gets to it: a name that was
there before, a group that no member gives, items that are too few, and values that are no
numbers of 16 bits. Literals that are no integers of 64 bits are taken for floating point
numbers, and are in range if they are clearly below the greatest one. -/
structure NoticesFaults (decoder : DefinitionDecoder) : Prop where
  repeated
    : ∀ seen group value later,
        seen.get group ≠ none
        → decoder.members seen ((some group.name.toList, value) :: later)
          = .error (.duplicateMember group.name)
  missing
    : ∀ seen group,
        (WordGroup.all.find? fun group => seen.get group = none) = some group
        → decoder.members seen [] = .error (.missingMember group.name)
  few
    : ∀ before, before.length < 4 → decoder.items before [] = .error (.wrongLength before.length)
  integer
    : ∀ literal n,
        literal.integer? = some n
        → ¬ (0 ≤ n ∧ n ≤ 65535)
        → decoder.part (.scalar (.number literal)) = .error (.outOfRange n .part)
  float
    : ∀ literal x,
        literal.integer? = none
        → decoder.float? literal = some x
        → decoder.part (.scalar (.number literal)) = .error (.wrongType (.float x) .part)
  finite : ∀ literal, literal.AtMost Double.safelyFinite → (decoder.float? literal).isSome
  null : decoder.part .null = .error (.wrongType .null .part)
  bool
    : ∀ value, decoder.part (.scalar (.bool value)) = .error (.wrongType (.bool value) .part)
  string : ∀ text, decoder.part (.string text) = .error (.wrongType (.string text) .part)
  sequence : ∀ items, decoder.part (.array items) = .error (.wrongType .array .part)
  map : ∀ members, decoder.part (.object members) = .error (.wrongType .object .part)

end DefinitionDecoder

/-- The word that a text encodes. -/
def Word.ofText (decoder : DefinitionDecoder) (text : Text) : Except DecodeError Word := do
  let (definition, rest) ← decoder.read text
  let word ← (ofDefinition definition).mapError .refused
  decoder.finish rest
  return word

end CardListing
