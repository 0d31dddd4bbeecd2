import CardListing.Proofs.Word.MemberFaults

/-! Which fault decides when a word is decoded from a text with several. Of an object the first
member at fault decides, then the first group that is missing; of an array the first item at
fault, then the number of items; and last the first part that does not fit.
-/

namespace CardListing

open Json (DecodeError)

variable {decoder : DefinitionDecoder}

-----------------------------------------------------------------------------------------
-- Arrays
-----------------------------------------------------------------------------------------

/-- An array fails at the item at a place. -/
def ItemFaultAt (decoder : DefinitionDecoder) (items : List Json) (i : Nat) (error : DecodeError)
    : Prop :=
  ∃ item, items[i]? = some item ∧ item.Unfit decoder error

/-- What an array of at most four items is decoded as: the fault of the first item that has one;
without such an item the number of items if they are fewer than four; and otherwise what making
a word of the parts gives.
-/
inductive ArrayGives (decoder : DefinitionDecoder) (items : List Json)
    : Except DecodeError Word → Prop
  | fault {error} (first : DecodeError.IsFirst (ItemFaultAt decoder items) error)
    : ArrayGives decoder items (.error error)
  | short (sound : ∀ item ∈ items, item.IsPart) (few : items.length < 4)
    : ArrayGives decoder items (.error (.wrongLength items.length))
  | made {given : WordGroups UInt16} (parts : items = given.items)
    : ArrayGives decoder items ((Word.ofParts given).mapError .refused)

theorem ItemFaultAt.unique (notices : decoder.NoticesFaults) {items : List Json} (i : Nat)
    (error other : DecodeError) (h : ItemFaultAt decoder items i error)
    (h' : ItemFaultAt decoder items i other)
    : error = other := by
  obtain ⟨item, here, unfit⟩ := h
  obtain ⟨item', here', unfit'⟩ := h'
  rw [here] at here'
  cases here'
  exact DefinitionDecoder.unfit_unique notices unfit unfit'

/-- Items that are the numbers of parts are at fault nowhere. -/
theorem not_itemFaultAt_map_natural (reads : decoder.ReadsDefinitions)
    (notices : decoder.NoticesFaults) (parts : List UInt16) (i : Nat) (error : DecodeError)
    : ¬ ItemFaultAt decoder (parts.map fun part => .natural part.toNat) i error := by
  rintro ⟨item, here, unfit⟩
  obtain ⟨part, _, rfl⟩ := List.mem_map.mp (List.mem_of_getElem? here)
  exact DefinitionDecoder.not_unfit_natural reads notices part error unfit

namespace DefinitionDecoder

/-- The items of an array are the numbers of parts, or reading them ends with the first fault.
By induction on the items.
-/
theorem items_cases (reads : decoder.ReadsDefinitions) (notices : decoder.NoticesFaults)
    {before : List UInt16} {items : List Json} (most : before.length + items.length ≤ 4)
    (plain : ∀ item ∈ items, item.Plain)
    : (∃ parts : List UInt16, items = parts.map fun part => .natural part.toNat)
      ∨ ∃ error,
        decoder.items before items = .error error
        ∧ DecodeError.IsFirst (ItemFaultAt decoder items) error := by
  induction items generalizing before with
  | nil => exact .inl ⟨[], rfl⟩
  | cons item later ih =>
      rw [List.length_cons] at most
      rw [reads.item _ _ _ (by omega)]
      obtain fit | ⟨error, unfit⟩ := isPart_or_unfit notices (plain item List.mem_cons_self)
      · obtain ⟨part, rfl, read⟩ := part_of_isPart reads fit
        have fewer : (before ++ [part]).length + later.length ≤ 4 := by
          rw [List.length_append, List.length_singleton]
          omega
        rw [read]
        obtain ⟨parts, rfl⟩ | ⟨error, rest, i, fault, first⟩ :=
          ih fewer fun other among => plain other (List.mem_cons_of_mem _ among)
        · exact .inl ⟨part :: parts, rfl⟩
        · refine .inr ⟨error, rest, i + 1, fault, fun j earlier other => ?_⟩
          cases j with
          | zero =>
              rintro ⟨_, here, unfit⟩
              cases here
              exact not_unfit_natural reads notices part other unfit
          | succ j => exact first j (Nat.lt_of_succ_lt_succ earlier) other
      · rw [part_of_unfit notices unfit]
        refine .inr ⟨error, rfl, 0, ⟨item, rfl, unfit⟩, fun j earlier => ?_⟩
        exact (Nat.not_lt_zero j earlier).elim

theorem exists_eq_of_length_eq_four {α : Type} {values : List α} (h : values.length = 4)
    : ∃ given : WordGroups α, values = given.toList := by
  rcases values with _ | ⟨command, _ | ⟨a, _ | ⟨b, _ | ⟨c, _ | ⟨more, later⟩⟩⟩⟩⟩
  · cases h
  · cases h
  · cases h
  · cases h
  · exact ⟨⟨command, a, b, c⟩, rfl⟩
  · simp at h

/-- Items that are the numbers of parts make a definition if they are four. -/
theorem items_map_natural_of_lt (reads : decoder.ReadsDefinitions)
    (notices : decoder.NoticesFaults) {parts : List UInt16} (few : parts.length < 4)
    : decoder.items [] (parts.map fun part => .natural part.toNat)
      = .error (.wrongLength parts.length) := by
  rw [items_map_natural reads (by rw [List.length_nil]; omega), List.nil_append]
  exact notices.few parts few

/-- An array of at most four items is decoded as it should be. -/
theorem arrayGives_items (reads : decoder.ReadsDefinitions) (notices : decoder.NoticesFaults)
    {items : List Json} (most : items.length ≤ 4) (plain : ∀ item ∈ items, item.Plain)
    : ArrayGives decoder items
        ((decoder.items [] items).bind fun definition =>
          (Word.ofDefinition definition).mapError .refused) := by
  have within : ([] : List UInt16).length + items.length ≤ 4 := by
    rwa [List.length_nil, Nat.zero_add]
  obtain ⟨parts, rfl⟩ | ⟨error, read, first⟩ := items_cases reads notices within plain
  · rw [List.length_map] at most
    obtain few | four := Nat.lt_or_eq_of_le most
    · rw [items_map_natural_of_lt reads notices few]
      have parted : ∀ item ∈ parts.map fun part => Json.natural part.toNat, item.IsPart := by
        simpa using fun part _ => Json.isPart_natural part
      have short : ArrayGives decoder _ _ := .short parted (by rwa [List.length_map])
      rw [List.length_map] at short
      exact short
    · obtain ⟨given, rfl⟩ := exists_eq_of_length_eq_four four
      rw [← WordGroups.items, items_items reads]
      exact .made rfl
  · rw [read]
    exact .fault first

/-- Nothing else is what such an array should be decoded as. -/
theorem items_eq_of_arrayGives (reads : decoder.ReadsDefinitions)
    (notices : decoder.NoticesFaults) {items : List Json} (most : items.length ≤ 4)
    (plain : ∀ item ∈ items, item.Plain) {result : Except DecodeError Word}
    (h : ArrayGives decoder items result)
    : ((decoder.items [] items).bind fun definition =>
        (Word.ofDefinition definition).mapError .refused)
      = result := by
  have within : ([] : List UInt16).length + items.length ≤ 4 := by
    rwa [List.length_nil, Nat.zero_add]
  cases h with
  | @made given parts =>
      rw [parts, items_items reads]
      rfl
  | short sound few =>
      obtain ⟨parts, rfl⟩ | ⟨error, _, i, ⟨item, here, unfit⟩, _⟩ :=
        items_cases reads notices within plain
      · rw [List.length_map] at few ⊢
        rw [items_map_natural_of_lt reads notices few]
        rfl
      · have among := List.mem_of_getElem? here
        exact ((isPart_iff reads notices (plain item among)).mp (sound item among) error unfit).elim
  | fault first =>
      obtain ⟨parts, rfl⟩ | ⟨error, read, first'⟩ := items_cases reads notices within plain
      · obtain ⟨i, fault, _⟩ := first
        exact (not_itemFaultAt_map_natural reads notices parts i _ fault).elim
      · rw [read, first'.eq (ItemFaultAt.unique notices) first]
        rfl

end DefinitionDecoder

-----------------------------------------------------------------------------------------
-- Texts
-----------------------------------------------------------------------------------------

namespace Word

/-- Whatever decoder reads definitions and notices faults: what an object or an array of at most
four items is decoded as is what the first fault in the order of its text, the first group that
is missing, the number of items and the size of the parts say, in this order of precedence, and
nothing else. The values that are at fault are all but the integer literals from 0 to 65535.
Numbers are to be clearly below the greatest floating point number, and escapes in strings to
name characters.
-/
theorem faults_decide_in_order (decoder : DefinitionDecoder) (reads : decoder.ReadsDefinitions)
    (notices : decoder.NoticesFaults)
    : (∀ json : Json, json.Plain → (json.IsPart ↔ ∀ error, ¬ json.Unfit decoder error))
      ∧ (∀ text members,
        Json.read? text = some (.object members)
        → (∀ member ∈ members, PlainMember member)
        → ∀ result, ofText decoder text = result ↔ ObjectGives decoder members result)
      ∧ ∀ text items,
        Json.read? text = some (.array items)
        → items.length ≤ 4
        → (∀ item ∈ items, item.Plain)
        → ∀ result, ofText decoder text = result ↔ ArrayGives decoder items result := by
  refine ⟨fun _ => DefinitionDecoder.isPart_iff reads notices, ?_, ?_⟩
  · intro text members read plain result
    rw [ofText_object reads read]
    constructor
    · rintro rfl
      exact DefinitionDecoder.objectGives_members reads notices plain
    · exact DefinitionDecoder.members_eq_of_objectGives reads notices plain
  · intro text items read most plain result
    rw [ofText_array reads read]
    constructor
    · rintro rfl
      exact DefinitionDecoder.arrayGives_items reads notices most plain
    · exact DefinitionDecoder.items_eq_of_arrayGives reads notices most plain

/-- The literal 1.797693134862315700e308, for a number just below the greatest floating point
number.
-/
def nearGreatest : Json.Number where
  whole := 1
  fraction := [7, 9, 7, 6, 9, 3, 1, 3, 4, 8, 6, 2, 3, 1, 5, 7, 0, 0]
  exponent := some 308

/-- Two objects with a group that is neither of the wrong type nor of the wrong size but not
understood. The number of the first is not above the greatest floating point number, but of its
digits and of the power of ten both are rounded, and the product is too great. The string of the
second has half of a surrogate pair.
-/
theorem faults_decide_in_order_overflow
    : Json.read? "\x7b\"command\":1.797693134862315700e308\x7d".toList
        = some (.object [(some "command".toList, .scalar (.number nearGreatest))])
      ∧ nearGreatest.AtMost Double.greatest
      ∧ ofJsonText "\x7b\"command\":1.797693134862315700e308\x7d".toList = .error .malformed
      ∧ Json.read? "\x7b\"command\":\"\\ud800\"\x7d".toList
        = some (.object [(some "command".toList, .scalar (.string none))])
      ∧ ofJsonText "\x7b\"command\":\"\\ud800\"\x7d".toList = .error .malformed := by
  have reads := DefinitionDecoder.readsDefinitions_tokenwise
  -- A text with one member is not understood if the value of the member is not.
  have refused {value : Json} {text : Text}
      (spelled : (Json.object [(some "command".toList, value)]).print = text)
      (part : DefinitionDecoder.tokenwise.part value = .error .malformed)
      : Json.read? text = some (.object [(some "command".toList, value)])
        ∧ ofJsonText text = .error .malformed := by
    have read := Json.read?_print (Json.object [(some "command".toList, value)])
    have member := reads.new (.ofFn fun _ => none) .command value [] rfl
    rw [part] at member
    rw [spelled] at read
    exact ⟨read, (ofText_object reads read).trans (congrArg (Except.bind · _) member)⟩
  have number : DefinitionDecoder.tokenwise.part (.scalar (.number nearGreatest))
      = .error .malformed := by
    rw [DefinitionDecoder.part_tokenwise]
    exact partOfJson_of_float?_eq_none (by decide) (by decide +kernel)
  have spelledNumber
      : (Json.object [(some "command".toList, .scalar (.number nearGreatest))]).print
        = "\x7b\"command\":1.797693134862315700e308\x7d".toList := by
    decide
  have spelledString
      : (Json.object [(some "command".toList, .scalar (.string none))]).print
        = "\x7b\"command\":\"\\ud800\"\x7d".toList := by
    decide
  obtain ⟨readNumber, refusedNumber⟩ := refused spelledNumber number
  obtain ⟨readString, refusedString⟩ := refused spelledString rfl
  exact ⟨readNumber, by decide +kernel, refusedNumber, readString, refusedString⟩

/-- An object whose first member is too large for 16 bits, repeats its name, has a part that does
not fit and lacks two groups, and an array whose second item is at fault.
-/
theorem faults_decide_in_order_four
    : DefinitionDecoder.tokenwise.ReadsDefinitions
      ∧ DefinitionDecoder.tokenwise.NoticesFaults
      ∧ ofJsonText "\x7b\"b\":70000,\"b\":1,\"command\":5000\x7d".toList
        = .error (.outOfRange 70000 .part)
      ∧ ofJsonText "[1,\"x\",null]".toList = .error (.wrongType (.string ['x']) .part) := by
  have object := Json.read?_print
    (.object
      [(some ['b'], .natural 70000), (some ['b'], .natural 1),
        (some "command".toList, .natural 5000)])
  have array := Json.read?_print (.array [.natural 1, .string ['x'], .null])
  have reads := DefinitionDecoder.readsDefinitions_tokenwise
  have notices := DefinitionDecoder.noticesFaults_tokenwise
  have order := faults_decide_in_order .tokenwise reads notices
  have number {n : Nat} (h : n ≤ Double.safelyFinite) : (Json.natural n).Plain := by
    simpa [Json.Plain, Json.natural, Json.Number.AtMost, Json.Number.digits, Json.Number.scale]
  have big : 70000 ≤ Double.safelyFinite := by decide +kernel
  have members := order.2.1 _ _ object (by
    simp only [List.forall_mem_cons]
    have named (name : Text) : some name ≠ none := Option.some_ne_none name
    exact ⟨⟨named _, fun _ _ => number big⟩, ⟨named _, fun _ _ => number (by omega)⟩,
      ⟨named _, fun _ _ => number (by omega)⟩, by simp⟩)
  have items := order.2.2 _ _ array (by decide) (by
    simp only [List.forall_mem_cons]
    exact ⟨number (by omega), Option.some_ne_none _, trivial, by simp⟩)
  refine ⟨reads, notices, (members _).mpr (.fault ⟨0, ⟨_, rfl, ?_⟩, by simp⟩),
    (items _).mpr (.fault ⟨1, ⟨_, rfl, .string⟩, ?_⟩)⟩
  · have names : WordGroup.b.Names (some ['b'], .natural 70000) := rfl
    exact .unfit names (by simp) (.large (by decide) (by decide))
  · intro j earlier other
    obtain rfl := Nat.lt_one_iff.mp earlier
    exact not_itemFaultAt_map_natural reads notices [1] 0 other

end Word

end CardListing
