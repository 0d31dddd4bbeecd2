import CardListing.Proofs.Word.PartValues
import Mathlib.Data.List.Induction

/-! Which member decides what an object is refused for. The members are gone through in the order
of the text, and the first one at fault decides: one that repeats the name of a group, or one
whose value cannot be a part. A group that no member names is noticed only after all of them,
the first one by its place in the word, and whether the parts fit is looked at last.
-/

namespace CardListing

open Json (DecodeError)

-----------------------------------------------------------------------------------------
-- Faults in the order of the text
-----------------------------------------------------------------------------------------

/-- The fault is that of the first place where there is one. -/
def Json.DecodeError.IsFirst (faultAt : Nat → DecodeError → Prop) (error : DecodeError) : Prop :=
  ∃ i, faultAt i error ∧ ∀ j, j < i → ∀ other, ¬ faultAt j other

/-- The member has the name of the group. -/
def WordGroup.Names (group : WordGroup) (member : Option Text × Json) : Prop :=
  member.1 = some group.name.toList

/-- The name of the member is a text, and if it is that of a group its value is plain. -/
structure PlainMember (member : Option Text × Json) : Prop where
  named : member.1 ≠ none
  value : ∀ group : WordGroup, group.Names member → member.2.Plain

/-- An object fails at a member after some others: the member repeats the name of a group,
whatever its value is; or it is the first one of its name and its value cannot be a part.
-/
inductive MemberFault (decoder : DefinitionDecoder) (before : List (Option Text × Json))
    (member : Option Text × Json)
    : DecodeError → Prop
  | repeated {group : WordGroup} (named : group.Names member)
    (seen : ∃ earlier ∈ before, group.Names earlier)
    : MemberFault decoder before member (.duplicateMember group.name)
  | unfit {group : WordGroup} {error} (named : group.Names member)
    (new : ∀ earlier ∈ before, ¬ group.Names earlier) (unfit : member.2.Unfit decoder error)
    : MemberFault decoder before member error

/-- An object fails at the member at a place. -/
def MemberFaultAt (decoder : DefinitionDecoder) (members : List (Option Text × Json)) (i : Nat)
    (error : DecodeError)
    : Prop :=
  ∃ member, members[i]? = some member ∧ MemberFault decoder (members.take i) member error

/-- What an object is decoded as: the fault of the first member that has one; without such a
member the first group that no member names, if there is one; and otherwise what making a word
of the parts gives, each of which a member has.
-/
inductive ObjectGives (decoder : DefinitionDecoder) (members : List (Option Text × Json))
    : Except DecodeError Word → Prop
  | fault {error} (first : DecodeError.IsFirst (MemberFaultAt decoder members) error)
    : ObjectGives decoder members (.error error)
  | missing {group} (sound : ∀ i error, ¬ MemberFaultAt decoder members i error)
    (first : WordGroup.IsFirst (fun group => ∀ member ∈ members, ¬ group.Names member) group)
    : ObjectGives decoder members (.error (.missingMember group.name))
  | made {given : WordGroups UInt16} (sound : ∀ i error, ¬ MemberFaultAt decoder members i error)
    (parts : ∀ group, given.member group ∈ members)
    : ObjectGives decoder members ((Word.ofParts given).mapError .refused)

theorem Json.DecodeError.IsFirst.eq {faultAt : Nat → DecodeError → Prop}
    (unique : ∀ i error other, faultAt i error → faultAt i other → error = other)
    {error other : DecodeError} (h : IsFirst faultAt error) (h' : IsFirst faultAt other)
    : error = other := by
  obtain ⟨i, fault, before⟩ := h
  obtain ⟨j, fault', before'⟩ := h'
  obtain earlier | rfl | later := Nat.lt_trichotomy i j
  · exact (before' i earlier error fault).elim
  · exact unique i error other fault fault'
  · exact (before j later other fault').elim

/-- A member has the name of one group only. -/
theorem WordGroup.Names.eq {group other : WordGroup} {member : Option Text × Json}
    (h : group.Names member) (h' : other.Names member)
    : group = other := by
  have same : group.name.toList = other.name.toList := Option.some.inj (h.symm.trans h')
  have found := group.ofName?_name
  rw [String.toList_inj.mp same, other.ofName?_name] at found
  exact (Option.some.inj found).symm

variable {decoder : DefinitionDecoder}

/-- What is at fault with a member is unique: a name that is repeated is not new. -/
theorem MemberFault.unique (notices : decoder.NoticesFaults)
    {before : List (Option Text × Json)} {member : Option Text × Json}
    {error other : DecodeError} (h : MemberFault decoder before member error)
    (h' : MemberFault decoder before member other)
    : error = other := by
  cases h with
  | repeated named seen =>
      cases h' with
      | repeated named' => rw [named.eq named']
      | unfit named' new =>
          obtain ⟨earlier, among, same⟩ := seen
          rw [named.eq named'] at same
          exact (new earlier among same).elim
  | unfit named new unfit =>
      cases h' with
      | repeated named' seen =>
          obtain ⟨earlier, among, same⟩ := seen
          rw [← named.eq named'] at same
          exact (new earlier among same).elim
      | unfit _ _ unfit' => exact DefinitionDecoder.unfit_unique notices unfit unfit'

theorem MemberFaultAt.unique (notices : decoder.NoticesFaults)
    {members : List (Option Text × Json)} (i : Nat) (error other : DecodeError)
    (h : MemberFaultAt decoder members i error) (h' : MemberFaultAt decoder members i other)
    : error = other := by
  obtain ⟨member, here, fault⟩ := h
  obtain ⟨member', here', fault'⟩ := h'
  rw [here] at here'
  cases here'
  exact fault.unique notices fault'

/-- One more member keeps the faults of those before it and can add its own. -/
theorem memberFaultAt_append_singleton {members : List (Option Text × Json)}
    {member : Option Text × Json} {i : Nat} {error : DecodeError}
    : MemberFaultAt decoder (members ++ [member]) i error
      ↔ MemberFaultAt decoder members i error
        ∨ i = members.length ∧ MemberFault decoder members member error := by
  unfold MemberFaultAt
  obtain before | rfl | after := Nat.lt_trichotomy i members.length
  · rw [List.getElem?_append_left before, List.take_append_of_le_length (Nat.le_of_lt before)]
    simp [Nat.ne_of_lt before]
  · simp
  · have beyond : (members ++ [member])[i]? = none := List.getElem?_eq_none (by simp; omega)
    have beyond' : members[i]? = none := List.getElem?_eq_none (Nat.le_of_lt after)
    simp [beyond, beyond', Nat.ne_of_gt after]

/-- The first fault stays the first when a member is put on. -/
theorem isFirst_append_singleton {members : List (Option Text × Json)} {error : DecodeError}
    (first : DecodeError.IsFirst (MemberFaultAt decoder members) error)
    (member : Option Text × Json)
    : DecodeError.IsFirst (MemberFaultAt decoder (members ++ [member])) error := by
  obtain ⟨i, fault, before⟩ := first
  have within : i < members.length := by
    obtain ⟨_, here, _⟩ := fault
    exact (List.getElem?_eq_some_iff.mp here).1
  refine ⟨i, memberFaultAt_append_singleton.mpr (.inl fault), fun j earlier other => ?_⟩
  rw [memberFaultAt_append_singleton]
  exact fun h => h.elim (before j earlier other) fun last => by omega

/-- The fault of a member is the first one if there is none before it. -/
theorem isFirst_of_memberFault {members : List (Option Text × Json)}
    (sound : ∀ i error, ¬ MemberFaultAt decoder members i error) {member : Option Text × Json}
    {error : DecodeError} (fault : MemberFault decoder members member error)
    : DecodeError.IsFirst (MemberFaultAt decoder (members ++ [member])) error := by
  refine ⟨members.length, memberFaultAt_append_singleton.mpr (.inr ⟨rfl, fault⟩),
    fun j earlier other => ?_⟩
  rw [memberFaultAt_append_singleton]
  exact fun h => h.elim (sound j other) fun last => Nat.ne_of_lt earlier last.1

-----------------------------------------------------------------------------------------
-- Objects
-----------------------------------------------------------------------------------------

namespace DefinitionDecoder

/-- The parts found are those that the members have. -/
structure Collected (members : List (Option Text × Json)) (seen : WordGroups (Option UInt16))
    : Prop where
  part : ∀ group part, seen.get group = some part
    → (some group.name.toList, .natural part.toNat) ∈ members
  member : ∀ group member, member ∈ members → group.Names member
    → ∃ part : UInt16, seen.get group = some part ∧ member.2 = .natural part.toNat

theorem Collected.get_eq_none_iff {members : List (Option Text × Json)}
    {seen : WordGroups (Option UInt16)} (collected : Collected members seen) (group : WordGroup)
    : seen.get group = none ↔ ∀ member ∈ members, ¬ group.Names member := by
  constructor
  · intro none member among named
    obtain ⟨part, found, _⟩ := collected.member group member among named
    rw [none] at found
    cases found
  · intro absent
    cases found : seen.get group with
    | none => rfl
    | some part => exact (absent _ (collected.part group part found) rfl).elim

/-- A member at fault ends the reading of an object with its fault. -/
theorem members_of_memberFault (reads : decoder.ReadsDefinitions)
    (notices : decoder.NoticesFaults) {before : List (Option Text × Json)}
    {seen : WordGroups (Option UInt16)} (collected : Collected before seen)
    {member : Option Text × Json} {error : DecodeError}
    (h : MemberFault decoder before member error) (later : List (Option Text × Json))
    : decoder.members seen (member :: later) = .error error := by
  obtain ⟨name?, value⟩ := member
  cases h with
  | repeated named again =>
      obtain ⟨earlier, among, same⟩ := again
      obtain ⟨part, found, _⟩ := collected.member _ earlier among same
      obtain rfl : name? = _ := named
      refine notices.repeated _ _ _ _ ?_
      rw [found]
      exact Option.some_ne_none part
  | unfit named new unfit =>
      have absent := (collected.get_eq_none_iff _).mpr new
      obtain rfl : name? = _ := named
      rw [reads.new _ _ _ _ absent, part_of_unfit notices unfit]
      rfl

theorem Collected.append_passed {before : List (Option Text × Json)}
    {seen : WordGroups (Option UInt16)} (collected : Collected before seen)
    {member : Option Text × Json} (foreign : ∀ group : WordGroup, ¬ group.Names member)
    : Collected (before ++ [member]) seen where
  part group part found := List.mem_append_left _ (collected.part group part found)
  member group other among named := by
    rcases List.mem_append.mp among with earlier | last
    · exact collected.member group other earlier named
    · cases List.mem_singleton.mp last
      exact (foreign group named).elim

theorem Collected.append_added {before : List (Option Text × Json)}
    {seen : WordGroups (Option UInt16)} (collected : Collected before seen) {group : WordGroup}
    (new : ∀ member ∈ before, ¬ group.Names member) (part : UInt16)
    : Collected (before ++ [(some group.name.toList, .natural part.toNat)])
        (seen.set group (some part)) where
  part other found read := by
    by_cases same : other = group
    · subst same
      rw [WordGroups.get_set_self] at read
      cases read
      exact List.mem_append_right _ List.mem_cons_self
    · rw [WordGroups.get_set_of_ne _ _ _ _ same] at read
      exact List.mem_append_left _ (collected.part other found read)
  member other member among named := by
    rcases List.mem_append.mp among with earlier | last
    · have apart : other ≠ group := fun same => new member earlier (same ▸ named)
      rw [WordGroups.get_set_of_ne _ _ _ _ apart]
      exact collected.member other member earlier named
    · cases List.mem_singleton.mp last
      obtain rfl : other = group := named.eq rfl
      exact ⟨part, WordGroups.get_set_self _ _ _, rfl⟩

/-- A member without a fault is passed over or gives its group the part that its value is. -/
theorem exists_collected_append_singleton (reads : decoder.ReadsDefinitions)
    (notices : decoder.NoticesFaults) {before : List (Option Text × Json)}
    {seen : WordGroups (Option UInt16)} (collected : Collected before seen)
    {member : Option Text × Json} (plain : PlainMember member)
    (sound : ∀ error, ¬ MemberFault decoder before member error)
    : ∃ found, TakesIn decoder seen member found ∧ Collected (before ++ [member]) found := by
  by_cases some : ∃ group : WordGroup, group.Names member
  · obtain ⟨group, named⟩ := some
    have new : ∀ earlier ∈ before, ¬ group.Names earlier := fun earlier among same =>
      sound _ (.repeated named ⟨earlier, among, same⟩)
    have fit : member.2.IsPart :=
      (isPart_iff reads notices (plain.value group named)).mpr fun _ unfit =>
        sound _ (.unfit named new unfit)
    obtain ⟨part, value, read⟩ := part_of_isPart reads fit
    obtain ⟨name?, _⟩ := member
    obtain rfl : name? = _ := named
    obtain rfl := value
    exact ⟨_, .added ((collected.get_eq_none_iff group).mpr new) read,
      collected.append_added new part⟩
  · have foreign := not_exists.mp some
    obtain ⟨name?, value⟩ := member
    obtain ⟨name, rfl⟩ := Option.ne_none_iff_exists'.mp plain.named
    exact ⟨seen, .passed fun group same => foreign group (congrArg Option.some same),
      collected.append_passed foreign⟩

/-- Reading the members of an object goes on with what they have if none is at fault, and ends
with the first fault otherwise. By induction on the members, the last one first.
-/
theorem members_cases (reads : decoder.ReadsDefinitions) (notices : decoder.NoticesFaults)
    {members : List (Option Text × Json)} (plain : ∀ member ∈ members, PlainMember member)
    : (∃ seen,
        (∀ later,
          decoder.members (.ofFn fun _ => none) (members ++ later)
          = decoder.members seen later)
        ∧ Collected members seen
        ∧ ∀ i error, ¬ MemberFaultAt decoder members i error)
      ∨ ∃ error,
        (∀ later,
          decoder.members (.ofFn fun _ => none) (members ++ later) = .error error)
        ∧ DecodeError.IsFirst (MemberFaultAt decoder members) error := by
  induction members using List.reverseRecOn with
  | nil =>
      refine .inl ⟨_, fun _ => rfl, ⟨?_, ?_⟩, ?_⟩
      · intro group part found
        rw [WordGroups.get_ofFn] at found
        cases found
      · exact fun _ _ among => (List.not_mem_nil among).elim
      · rintro i error ⟨member, here, _⟩
        cases here
  | append_singleton before member ih =>
      have last := plain member (List.mem_append_right _ List.mem_cons_self)
      obtain ⟨seen, read, collected, sound⟩ | ⟨error, read, first⟩ :=
        ih fun other among => plain other (List.mem_append_left _ among)
      · by_cases faulty : ∃ error, MemberFault decoder before member error
        · obtain ⟨error, fault⟩ := faulty
          refine .inr ⟨error, fun later => ?_, isFirst_of_memberFault sound fault⟩
          rw [List.append_assoc, read]
          exact members_of_memberFault reads notices collected fault later
        · have fits := not_exists.mp faulty
          obtain ⟨found, taken, collected⟩ :=
            exists_collected_append_singleton reads notices collected last fits
          refine .inl ⟨found, fun later => ?_, collected, fun j other => ?_⟩
          · rw [List.append_assoc, read]
            exact taken.members_cons reads later
          · rw [memberFaultAt_append_singleton]
            exact fun h => h.elim (sound j other) fun last => fits other last.2
      · refine .inr ⟨error, fun later => ?_, isFirst_append_singleton first member⟩
        rw [List.append_assoc, read]

/-- The definition that the parts found make, if there is one for every group. -/
theorem members_nil_of_get_eq (reads : decoder.ReadsDefinitions)
    {seen : WordGroups (Option UInt16)} {given : WordGroups UInt16}
    (h : ∀ group, seen.get group = some (given.get group))
    : decoder.members seen [] = .ok (.ofGroups given) := by
  obtain rfl : seen = given.map some :=
    WordGroups.ext_get _ _ fun group => by rw [h, WordGroups.get_map]
  exact reads.whole given

/-- An object is decoded as it should be. -/
theorem objectGives_members (reads : decoder.ReadsDefinitions) (notices : decoder.NoticesFaults)
    {members : List (Option Text × Json)} (plain : ∀ member ∈ members, PlainMember member)
    : ObjectGives decoder members
        ((decoder.members (.ofFn fun _ => none) members).bind fun definition =>
          (Word.ofDefinition definition).mapError .refused) := by
  rw [← List.append_nil members]
  obtain ⟨seen, read, collected, sound⟩ | ⟨error, read, first⟩ := members_cases reads notices plain
  · rw [read, List.append_nil]
    cases missing : WordGroup.all.find? fun group => seen.get group = none with
    | some group =>
        have first := WordGroup.find?_all_eq_some_iff.mp missing
        rw [notices.missing _ _ missing]
        simp only [collected.get_eq_none_iff] at first
        exact .missing sound first
    | none =>
        have present (group : WordGroup) : ∃ part, seen.get group = some part := by
          have := List.find?_eq_none.mp missing group group.mem_all
          exact Option.ne_none_iff_exists'.mp (by simpa using this)
        choose part found using present
        have all (group : WordGroup)
            : seen.get group = some ((WordGroups.ofFn part).get group) := by
          rw [WordGroups.get_ofFn]
          exact found group
        rw [members_nil_of_get_eq reads all]
        have parts (group : WordGroup) : (WordGroups.ofFn part).member group ∈ members := by
          rw [WordGroups.member, WordGroups.get_ofFn]
          exact collected.part group _ (found group)
        exact .made sound parts
  · rw [read, List.append_nil]
    exact .fault first

/-- Nothing else is what an object should be decoded as. -/
theorem members_eq_of_objectGives (reads : decoder.ReadsDefinitions)
    (notices : decoder.NoticesFaults) {members : List (Option Text × Json)}
    (plain : ∀ member ∈ members, PlainMember member) {result : Except DecodeError Word}
    (h : ObjectGives decoder members result)
    : ((decoder.members (.ofFn fun _ => none) members).bind fun definition =>
        (Word.ofDefinition definition).mapError .refused)
      = result := by
  have whole := List.append_nil members
  obtain ⟨seen, read, collected, sound⟩ | ⟨error, read, first⟩ := members_cases reads notices plain
  · rw [← whole, read]
    cases h with
    | fault first =>
        obtain ⟨i, fault, _⟩ := first
        exact (sound i _ fault).elim
    | missing _ first =>
        simp only [← collected.get_eq_none_iff] at first
        rw [notices.missing _ _ (WordGroup.find?_all_eq_some_iff.mpr first)]
        rfl
    | @made given _ parts =>
        have found (group : WordGroup) : seen.get group = some (given.get group) := by
          obtain ⟨part, found, same⟩ := collected.member group _ (parts group) rfl
          have value : (given.get group).toNat = part.toNat := by
            simpa [WordGroups.member, Json.natural] using same
          rw [found, UInt16.toNat_inj.mp value]
        rw [members_nil_of_get_eq reads found]
        rfl
  · rw [← whole, read]
    cases h with
    | fault first' =>
        exact congrArg Except.error (first.eq (MemberFaultAt.unique notices) first')
    | missing sound | made sound =>
        obtain ⟨i, fault, _⟩ := first
        exact (sound i error fault).elim

end DefinitionDecoder

end CardListing
