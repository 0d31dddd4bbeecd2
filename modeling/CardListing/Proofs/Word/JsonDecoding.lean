import CardListing.Proofs.Json.Encoding
import CardListing.Proofs.Word.TokenwiseDecoder
import Mathlib.Data.List.Perm.Basic

/-! Decoding a word is making it of the parts that the text names, whatever decoder reads the
definition. The members of an object can stand in any order with any others among them, an array
has the parts in order, and the parts are checked only when all of them are known, so the first
that does not fit is the first by its group and not by its place in the text.
-/

namespace CardListing

open Json (DecodeError)

/-- The member of an object that gives a group its part. -/
def WordGroups.member (given : WordGroups UInt16) (group : WordGroup) : Option Text × Json :=
  (some group.name.toList, .natural (given.get group).toNat)

/-- The members of an object for all parts, in the order of the groups. -/
def WordGroups.members (given : WordGroups UInt16) : List (Option Text × Json) :=
  WordGroup.all.map given.member

/-- The items of an array for all parts. -/
def WordGroups.items (given : WordGroups UInt16) : List Json :=
  given.toList.map fun part => .natural part.toNat

namespace DefinitionDecoder

variable {decoder : DefinitionDecoder}

-----------------------------------------------------------------------------------------
-- Members and items
-----------------------------------------------------------------------------------------

/-- How a member is taken in: it is passed over if its name is no group's, or it gives a group
its part that had none before.
-/
inductive TakesIn (decoder : DefinitionDecoder) (seen : WordGroups (Option UInt16))
    : Option Text × Json → WordGroups (Option UInt16) → Prop
  | passed {name value} (foreign : ∀ group : WordGroup, name ≠ group.name.toList)
    : TakesIn decoder seen (some name, value) seen
  | added {group : WordGroup} {value part} (new : seen.get group = none)
    (read : decoder.part value = .ok part)
    : TakesIn decoder seen (some group.name.toList, value) (seen.set group (some part))

/-- Members that are all taken in, one after the other. -/
inductive TakesAll (decoder : DefinitionDecoder)
    : WordGroups (Option UInt16) → List (Option Text × Json) → WordGroups (Option UInt16)
      → Prop
  | nil {seen} : TakesAll decoder seen [] seen
  | cons {seen member between later found} (first : TakesIn decoder seen member between)
    (rest : TakesAll decoder between later found)
    : TakesAll decoder seen (member :: later) found

theorem TakesIn.members_cons (reads : decoder.ReadsDefinitions)
    {seen found : WordGroups (Option UInt16)} {member : Option Text × Json}
    (h : TakesIn decoder seen member found) (later : List (Option Text × Json))
    : decoder.members seen (member :: later) = decoder.members found later := by
  cases h with
  | passed foreign => exact reads.foreign _ _ _ _ foreign
  | added new read =>
      rw [reads.new _ _ _ _ new, read]
      rfl

/-- Two members that are taken in one after the other can be exchanged: they give no group
its part twice, so their groups are different.
-/
theorem TakesIn.swap {seen between found : WordGroups (Option UInt16)}
    {first second : Option Text × Json} (h : TakesIn decoder seen first between)
    (h' : TakesIn decoder between second found)
    : ∃ other, TakesIn decoder seen second other ∧ TakesIn decoder other first found := by
  cases h with
  | passed foreign => exact ⟨found, h', .passed foreign⟩
  | @added group _ part new read =>
      cases h' with
      | passed foreign => exact ⟨seen, .passed foreign, .added new read⟩
      | @added group' _ part' new' read' =>
          have apart : group' ≠ group := by
            rintro rfl
            rw [WordGroups.get_set_self] at new'
            cases new'
          rw [WordGroups.get_set_of_ne _ _ _ _ apart] at new'
          refine ⟨_, .added new' read', ?_⟩
          rw [WordGroups.set_comm _ _ _ apart.symm]
          refine .added ?_ read
          rw [WordGroups.get_set_of_ne _ _ _ _ apart.symm, new]

/-- Members that are all taken in are so in any order and with the same result, by induction
over the way they are permuted.
-/
theorem TakesAll.perm {members others : List (Option Text × Json)}
    (perm : members.Perm others) {seen found : WordGroups (Option UInt16)}
    (h : TakesAll decoder seen members found)
    : TakesAll decoder seen others found := by
  induction perm generalizing seen found with
  | nil => exact h
  | cons member _ ih =>
      cases h with
      | cons first rest => exact .cons first (ih rest)
  | swap first second rest =>
      cases h with
      | cons one h =>
          cases h with
          | cons two later =>
              obtain ⟨other, before, after⟩ := one.swap two
              exact .cons before (.cons after later)
  | trans _ _ ihFirst ihSecond => exact ihSecond (ihFirst h)

/-- Items that are parts are all read, by induction over them. -/
theorem items_map_natural (reads : decoder.ReadsDefinitions) {before parts : List UInt16}
    (most : before.length + parts.length ≤ 4)
    : decoder.items before (parts.map fun part => .natural part.toNat)
      = decoder.items (before ++ parts) [] := by
  induction parts generalizing before with
  | nil => rw [List.map_nil, List.append_nil]
  | cons part later ih =>
      rw [List.length_cons] at most
      rw [List.map_cons, reads.item _ _ _ (by omega), reads.natural]
      change decoder.items (before ++ [part]) _ = _
      rw [ih (by rw [List.length_append, List.length_singleton]; omega), List.append_assoc,
        List.singleton_append]

theorem items_items (reads : decoder.ReadsDefinitions) (given : WordGroups UInt16)
    : decoder.items [] given.items = .ok (.ofGroups given) := by
  have four : given.toList.length = 4 := rfl
  rw [WordGroups.items, items_map_natural reads (by rw [four, List.length_nil]),
    List.nil_append, reads.four]

end DefinitionDecoder

namespace Word

variable {decoder : DefinitionDecoder}

-----------------------------------------------------------------------------------------
-- Texts
-----------------------------------------------------------------------------------------

theorem ofText_eq (text : Text)
    : ofText decoder text
      = (decoder.read text).bind fun found =>
          ((ofDefinition found.1).mapError DecodeError.refused).bind fun word =>
            (decoder.finish found.2).bind fun _ => .ok word := rfl

/-- A definition that is read from a text with nothing after it is made a word. -/
theorem ofText_of_read {text : Text} {found : Except DecodeError WordDefinition}
    {rest : decoder.Rest} (read : decoder.read text = found.map (·, rest))
    (finish : decoder.finish rest = .ok ())
    : ofText decoder text
      = found.bind fun definition => (ofDefinition definition).mapError .refused := by
  rw [ofText_eq, read]
  cases found with
  | error error => rfl
  | ok definition =>
      change ((ofDefinition definition).mapError DecodeError.refused).bind _
        = (ofDefinition definition).mapError DecodeError.refused
      rw [finish]
      cases (ofDefinition definition).mapError DecodeError.refused <;> rfl

theorem ofText_object (reads : decoder.ReadsDefinitions) {text : Text}
    {members : List (Option Text × Json)} (h : Json.read? text = some (.object members))
    : ofText decoder text
      = (decoder.members (.ofFn fun _ => none) members).bind fun definition =>
          (ofDefinition definition).mapError .refused := by
  obtain ⟨rest, read, finish⟩ := reads.object text members h
  exact ofText_of_read read finish

theorem ofText_array (reads : decoder.ReadsDefinitions) {text : Text} {items : List Json}
    (h : Json.read? text = some (.array items))
    : ofText decoder text
      = (decoder.items [] items).bind fun definition =>
          (ofDefinition definition).mapError .refused := by
  obtain ⟨rest, read, finish⟩ := reads.array text items h
  exact ofText_of_read read finish

end Word

end CardListing
