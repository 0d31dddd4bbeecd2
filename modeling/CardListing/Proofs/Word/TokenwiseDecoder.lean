import CardListing.Proofs.Json.NumberRange
import CardListing.Proofs.Json.RoundTrip.Exact
import CardListing.Proofs.Json.RoundTrip.Value
import CardListing.Proofs.Word.Making
import CardListing.Word.JsonText

/-! The tokenwise decoder on texts that are JSON values. Reading a definition from the front of
such a text and from the value that it is give the same, since reading ahead to the end of the
value changes nothing where the end is there. So this decoder reads definitions and notices their
faults as decoders are relied on to do.
-/

namespace CardListing

namespace Word

open Json (DecodeError Token)

/-- A value at the front is a group exactly as the value itself, by its first token. -/
theorem readPart_tokens_append (json : Json) (rest : List Token)
    : readPart (json.tokens ++ rest) = (partOfJson json).map (·, rest) := by
  cases json with
  | scalar s =>
      rw [Json.tokens]
      change (partOfFound s.found?).bind _ = (partOfFound s.found?).map _
      cases partOfFound s.found? <;> rfl
  | array items => cases items <;> simp only [Json.tokens] <;> rfl
  | object members => cases members <;> simp only [Json.tokens] <;> rfl

/-- A member is read as the list of it alone is scanned: refused if its group was found
before, added if it is a group, and passed over otherwise. -/
theorem readMember_colon (seen : WordGroups (Option UInt16)) (name : Text) (value : Json)
    (rest : List Token)
    : readMember seen name (.colon :: (value.tokens ++ rest))
      = (scanMembers seen [(some name, value)]).map (·, rest) := by
  cases hname : WordGroup.ofName? (String.ofList name) with
  | none =>
      simp only [readMember, scanMembers, hname, Json.readValue?_tokens_append]
      rfl
  | some group =>
      simp only [readMember, scanMembers, hname, readPart_tokens_append]
      split
      · rfl
      · cases partOfJson value <;> rfl

theorem scanMembers_cons (seen : WordGroups (Option UInt16)) (member : Option Text × Json)
    (later : List (Option Text × Json))
    : scanMembers seen (member :: later)
      = (scanMembers seen [member]).bind fun found => scanMembers found later := by
  obtain ⟨name?, value⟩ := member
  cases name? with
  | none => rfl
  | some name =>
      simp only [scanMembers]
      split
      · rfl
      · split
        · rfl
        · cases partOfJson value <;> rfl

/-- The members after the first ones are read as a list of members is scanned, by induction
on them. -/
theorem readLaterMembers_append (seen : WordGroups (Option UInt16))
    (members : List (Option Text × Json)) (rest : List Token)
    : readLaterMembers seen (Json.laterMembers members ++ rest)
      = (scanMembers seen members).map (·, rest) := by
  induction members generalizing seen with
  | nil =>
      rw [Json.laterMembers, List.cons_append, readLaterMembers]
      rfl
  | cons member later ih =>
      obtain ⟨name?, value⟩ := member
      rw [Json.laterMembers, List.cons_append, List.cons_append, List.cons_append,
        List.append_assoc, scanMembers_cons]
      cases name? with
      | none =>
          simp only [readLaterMembers]
          rfl
      | some name =>
          rw [readLaterMembers_comma, readMember_colon]
          cases scanMembers seen [(some name, value)] with
          | error e => rfl
          | ok found => exact ih found

theorem readParts_object (members : List (Option Text × Json)) (rest : List Token)
    : readParts ((Json.object members).tokens ++ rest)
      = (definitionOfMembers (.ofFn fun _ => none) members).map (·, rest) := by
  cases members with
  | nil => simp only [Json.tokens]; rfl
  | cons member later =>
      obtain ⟨name?, value⟩ := member
      rw [definitionOfMembers, scanMembers_cons, Json.tokens]
      cases name? with
      | none => rfl
      | some name =>
          simp only [List.cons_append, List.append_assoc, readParts, readMembers,
            readMember_colon]
          cases scanMembers (.ofFn fun _ => none) [(some name, value)] with
          | error e => rfl
          | ok found =>
              change ((readLaterMembers found _).bind _) = _
              rw [readLaterMembers_append]
              change _ = ((scanMembers found later).bind foundParts).map _
              cases scanMembers found later with
              | error e => rfl
              | ok seen =>
                  change (foundParts seen).bind _ = (foundParts seen).map _
                  cases foundParts seen <;> rfl

/-- The first item of an array is read as a group. -/
theorem readItem_zero (item : Json) (rest : List Token)
    : readItem 0 (item.tokens ++ rest) = (partOfJson item).map (·, rest) := by
  rw [← readPart_tokens_append]
  cases item with
  | scalar s => rw [Json.tokens]; rfl
  | array items => cases items <;> rw [Json.tokens] <;> rfl
  | object members => cases members <;> rw [Json.tokens] <;> rfl

/-- A later item of an array is read as a group after its comma. -/
theorem readItem_succ (before : Nat) (item : Json) (later : List Json) (rest : List Token)
    : readItem (before + 1) (Json.laterItems (item :: later) ++ rest)
      = (partOfJson item).map (·, Json.laterItems later ++ rest) := by
  rw [Json.laterItems, List.cons_append, List.append_assoc, readItem,
    if_neg (Nat.succ_ne_zero before), readPart_tokens_append]

/-- At the end of an array no further item is found. -/
theorem readItem_end (before : Nat) (rest : List Token)
    : readItem before (Json.laterItems [] ++ rest) = .error (.wrongLength before) := by
  rw [Json.laterItems]
  rfl

/-- Reading the next item and going on is going on with the definition that items make, if going
on after the item is.
-/
theorem readItem_succ_bind {before : List UInt16} {count : Nat}
    (length : before.length = count + 1) (few : count + 1 < 4) {rest : List Token}
    {next : UInt16 × List Token → Except DecodeError (WordDefinition × List Token)}
    (h : ∀ part later,
      next (part, Json.laterItems later ++ rest)
      = (definitionOfItems (before ++ [part]) later).map (·, rest))
    (items : List Json)
    : (readItem (count + 1) (Json.laterItems items ++ rest)).bind next
      = (definitionOfItems before items).map (·, rest) := by
  cases items with
  | nil =>
      rw [readItem_end, definitionOfItems, length]
      · rfl
      · rintro command a b c rfl
        simp only [List.length_cons, List.length_nil] at length
        omega
  | cons item later =>
      rw [readItem_succ, definitionOfItems, if_pos (length ▸ few)]
      cases partOfJson item with
      | error error => rfl
      | ok part => exact h part later

/-- An array is read item by item: the first one that is no group decides, then the number
of items.
-/
theorem readParts_array (items : List Json) (rest : List Token)
    : readParts ((Json.array items).tokens ++ rest)
      = (definitionOfItems [] items).map (·, rest) := by
  cases items with
  | nil => rw [Json.tokens]; rfl
  | cons item later =>
      rw [Json.tokens, List.cons_append, List.append_assoc, readParts, readItems, readItem_zero,
        definitionOfItems, if_pos (by decide)]
      cases partOfJson item with
      | error error => rfl
      | ok command =>
          refine readItem_succ_bind rfl (by decide) (fun a => ?_) later
          refine readItem_succ_bind rfl (by decide) fun b => ?_
          refine readItem_succ_bind rfl (by decide) fun c more => ?_
          cases more with
          | nil => rw [Json.laterItems]; rfl
          | cons item more =>
              rw [Json.laterItems, definitionOfItems, if_neg (by simp)]
              rfl

-----------------------------------------------------------------------------------------
-- Single values
-----------------------------------------------------------------------------------------

theorem found?_of_integer? {literal : Json.Number} {n : Int} (h : literal.integer? = some n)
    : (Json.scalar (.number literal)).found? = some (.integer n) := by
  rw [Json.found?, Json.Scalar.found?, Json.Number.value?, h, Option.map_some]

/-- A number of 16 bits is read as the part that it is. -/
theorem partOfJson_natural (part : UInt16) : partOfJson (.natural part.toNat) = .ok part := by
  have small : part.toNat < 65536 := part.toNat_lt
  have literal : Json.Number.integer? { whole := part.toNat } = some (part.toNat : Int) := by
    have fits : part.toNat < UInt64.size := Nat.lt_trans small (by decide)
    rw [Json.Number.integer?, if_pos ⟨rfl, by simp, fits⟩]
  rw [partOfJson, Json.natural, found?_of_integer? literal, partOfFound,
    if_pos ⟨by omega, by simp [UInt16.size]; omega⟩]
  simp

theorem partOfJson_of_integer? {literal : Json.Number} {n : Int}
    (h : literal.integer? = some n) (beyond : ¬ (0 ≤ n ∧ n ≤ 65535))
    : partOfJson (.scalar (.number literal)) = .error (.outOfRange n .part) := by
  rw [partOfJson, found?_of_integer? h, partOfFound,
    if_neg (by simp only [UInt16.size]; omega)]

theorem partOfJson_of_float? {literal : Json.Number} {x : Double}
    (noInteger : literal.integer? = none) (float : literal.float? = some x)
    : partOfJson (.scalar (.number literal)) = .error (.wrongType (.float x) .part) := by
  have found : (Json.scalar (.number literal)).found? = some (.float x) := by
    rw [Json.found?, Json.Scalar.found?, Json.Number.value?, noInteger]
    simp only [float, Option.map_some]
  rw [partOfJson, found]
  rfl

/-- A literal that is out of range is not understood. -/
theorem partOfJson_of_float?_eq_none {literal : Json.Number} (noInteger : literal.integer? = none)
    (noFloat : literal.float? = none)
    : partOfJson (.scalar (.number literal)) = .error .malformed := by
  have found : (Json.scalar (.number literal)).found? = none := by
    rw [Json.found?, Json.Scalar.found?, Json.Number.value?, noInteger]
    simp only [noFloat, Option.map_none]
  rw [partOfJson, found]
  rfl

/-- The first group without a part is the one that is called missing. -/
theorem foundParts_of_isFirst {seen : WordGroups (Option UInt16)} {group : WordGroup}
    (first : WordGroup.IsFirst (fun group => seen.get group = none) group)
    : foundParts seen = .error (.missingMember group.name) := by
  have present (other : WordGroup) (precedes : other.Precedes group)
      : ∃ part, foundPart seen other = .ok part := by
    obtain ⟨part, found⟩ := Option.ne_none_iff_exists'.mp (first.earlier other precedes)
    exact ⟨part, by rw [foundPart, found]⟩
  have absent : foundPart seen group = .error (.missingMember group.name) := by
    rw [foundPart, first.holds]
  rw [foundParts]
  cases group with
  | command => rw [absent]; rfl
  | a =>
      obtain ⟨_, command⟩ := present .command (by decide)
      rw [command, absent]
      rfl
  | b =>
      obtain ⟨_, command⟩ := present .command (by decide)
      obtain ⟨_, a⟩ := present .a (by decide)
      rw [command, a, absent]
      rfl
  | c =>
      obtain ⟨_, command⟩ := present .command (by decide)
      obtain ⟨_, a⟩ := present .a (by decide)
      obtain ⟨_, b⟩ := present .b (by decide)
      rw [command, a, b, absent]
      rfl

end Word

-----------------------------------------------------------------------------------------
-- What the decoder is relied on for
-----------------------------------------------------------------------------------------

namespace DefinitionDecoder

theorem ofName?_eq_none {name : Text} (h : ∀ group : WordGroup, name ≠ group.name.toList)
    : WordGroup.ofName? (String.ofList name) = none := by
  refine List.find?_eq_none.mpr fun group _ same => h group ?_
  have spelled : group.name = String.ofList name := by simpa using same
  rw [spelled, String.toList_ofList]

theorem part_tokenwise (json : Json) : tokenwise.part json = Word.partOfJson json := rfl

theorem readsDefinitions_tokenwise : tokenwise.ReadsDefinitions where
  object text members h := by
    refine ⟨[], ?_, rfl⟩
    have read := Word.readParts_object members []
    rw [List.append_nil, ← Json.scan_eq_tokens_of_read? h] at read
    exact read
  array text items h := by
    refine ⟨[], ?_, rfl⟩
    have read := Word.readParts_array items []
    rw [List.append_nil, ← Json.scan_eq_tokens_of_read? h] at read
    exact read
  foreign seen name value later other := by
    change Word.definitionOfMembers _ _ = Word.definitionOfMembers _ _
    rw [Word.definitionOfMembers, Word.scanMembers, ofName?_eq_none other, Word.definitionOfMembers]
  new seen group value later unseen := by
    change Word.definitionOfMembers _ _ = _
    simp only [Word.definitionOfMembers, Word.scanMembers, String.ofList_toList,
      group.ofName?_name, unseen]
    change ((Word.partOfJson value).bind _).bind _ = (Word.partOfJson value).bind _
    cases Word.partOfJson value <;> rfl
  whole _ := rfl
  item before item later few := by
    change Word.definitionOfItems _ _ = _
    rw [Word.definitionOfItems, if_pos few]
    rfl
  four _ := rfl
  natural := Word.partOfJson_natural

theorem noticesFaults_tokenwise : tokenwise.NoticesFaults where
  repeated seen group value later again := by
    change Word.definitionOfMembers _ _ = _
    have present : (seen.get group).isSome = true := by
      cases found : seen.get group with
      | none => exact (again found).elim
      | some _ => rfl
    simp only [Word.definitionOfMembers, Word.scanMembers, String.ofList_toList,
      group.ofName?_name, present]
    rfl
  missing seen group first :=
    Word.foundParts_of_isFirst (WordGroup.find?_all_eq_some_iff.mp first)
  few before few := by
    change Word.definitionOfItems _ _ = _
    rw [Word.definitionOfItems]
    rintro command a b c rfl
    exact absurd few (by simp)
  integer _ _ := Word.partOfJson_of_integer?
  float _ _ := Word.partOfJson_of_float?
  finite _ := Json.Number.isSome_float?
  null := rfl
  bool _ := rfl
  string _ := rfl
  sequence _ := rfl
  map _ := rfl

end DefinitionDecoder

end CardListing
