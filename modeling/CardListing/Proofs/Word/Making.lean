import CardListing.Proofs.Word.Packing

/-! Words that are made or changed. A word can be made of parts or of a value exactly if they
fit, and then has these parts or this value; of parts that do not fit the first is refused.
-/

namespace CardListing

namespace WordGroup

/-- The group stands before the other one in a word. -/
def Precedes (group other : WordGroup) : Prop := group.bits.last < other.bits.first

instance : DecidableRel Precedes := fun group other =>
  inferInstanceAs (Decidable (group.bits.last < other.bits.first))

/-- The group is the first one in a word that has a property. -/
structure IsFirst (p : WordGroup → Prop) (group : WordGroup) : Prop where
  holds : p group
  earlier : ∀ other, other.Precedes group → ¬ p other

theorem pairwise_all : all.Pairwise Precedes := by decide

/-- Of two groups that are first, neither stands before the other. -/
theorem IsFirst.eq {p : WordGroup → Prop} {group other : WordGroup} (h : IsFirst p group)
    (h' : IsFirst p other)
    : group = other := by
  have ordered : ∀ left right : WordGroup,
      left = right ∨ left.Precedes right ∨ right.Precedes left := by
    intro left right
    cases left <;> cases right <;> decide
  obtain same | before | after := ordered group other
  · exact same
  · exact (h'.earlier group before h.holds).elim
  · exact (h.earlier other after h'.holds).elim

/-- Going through the groups finds the first one with a property. -/
theorem find?_all_eq_some_iff {p : WordGroup → Prop} [DecidablePred p] {group : WordGroup}
    : all.find? (fun group => p group) = some group ↔ IsFirst p group := by
  have first {found : WordGroup} (h : all.find? (fun group => p group) = some found)
      : IsFirst p found := by
    obtain ⟨holds, before, after, split, fails⟩ := List.find?_eq_some_iff_append.mp h
    refine ⟨of_decide_eq_true holds, fun other precedes has => ?_⟩
    have ordered := pairwise_all
    have among := other.mem_all
    rw [split] at ordered among
    obtain among | rfl | among := by simpa only [List.mem_append, List.mem_cons] using among
    · simpa [has] using fails other among
    · exact Nat.lt_irrefl _ (Nat.lt_of_lt_of_le precedes other.bits.first_le_last)
    · have follows := List.rel_of_pairwise_cons (List.pairwise_append.mp ordered).2.1 among
      have := found.bits.first_le_last
      have := other.bits.first_le_last
      unfold Precedes at precedes follows
      omega
  refine ⟨first, fun h => ?_⟩
  cases found : all.find? fun group => p group with
  | none => exact (List.find?_eq_none.mp found group group.mem_all (decide_eq_true h.holds)).elim
  | some other => rw [(first found).eq h]

/-- Of the groups with a property one is first. -/
theorem exists_isFirst {p : WordGroup → Prop} [DecidablePred p] (h : ∃ group, p group)
    : ∃ group, IsFirst p group := by
  obtain ⟨group, holds⟩ := h
  cases found : all.find? fun group => p group with
  | none => exact (List.find?_eq_none.mp found group group.mem_all (decide_eq_true holds)).elim
  | some first => exact ⟨first, find?_all_eq_some_iff.mp found⟩

end WordGroup

/-- The group is the first one whose part needs more bits than a group has. -/
def WordGroups.FirstWide (given : WordGroups UInt16) (group : WordGroup) : Prop :=
  WordGroup.IsFirst (fun group => 4095 < (given.get group).toNat) group

namespace Word

@[simp] theorem get_parts (word : Word) (group : WordGroup)
    : word.parts.get group = word.part group :=
  WordGroups.get_ofFn _ _

theorem toNat_part_le (word : Word) (group : WordGroup) : (word.part group).toNat ≤ 4095 :=
  UInt16.le_iff_toNat_le.mp (word.groups.get group).property

theorem eq_of_parts_eq {left right : Word} (h : left.parts = right.parts) : left = right := by
  refine eq_of_part_eq fun group => ?_
  rw [← get_parts, h, get_parts]

/-- A group reads the same from a word and from its value. -/
theorem toUInt64_part (word : Word) (group : WordGroup)
    : (word.part group).toUInt64 = group.bits.get word.value wordBits := by
  refine UInt64.toNat_inj.mp ?_
  have := word.toNat_part_le group
  rw [value, toNat_get_pack, get_parts, UInt16.toNat_toUInt64]
  omega

theorem value_le_wordMax (word : Word) : word.value ≤ wordMax :=
  (le_wordMax_iff _).mpr (toNat_pack_lt _)

theorem check_of_fits (group : WordGroup) {value : UInt16} (fits : value.toNat ≤ 4095)
    : check group value = .ok ⟨value, UInt16.le_iff_toNat_le.mpr fits⟩ := by
  have within : group.bits.fits value.toUInt64 = true := by
    rw [BitSpan.fits_iff, WordGroup.length_bits, UInt16.toNat_toUInt64]
    omega
  rw [check, dif_pos within]

theorem check_of_wide (group : WordGroup) {value : UInt16} (wide : 4095 < value.toNat)
    : check group value = .error (.groupTooWide group value) := by
  have beyond : ¬ group.bits.fits value.toUInt64 = true := by
    rw [BitSpan.fits_iff, WordGroup.length_bits, UInt16.toNat_toUInt64]
    omega
  rw [check, dif_neg beyond]

theorem ofParts_eq (given : WordGroups UInt16)
    : ofParts given = (do
        let command ← check .command (given.get .command)
        let a ← check .a (given.get .a)
        let b ← check .b (given.get .b)
        let c ← check .c (given.get .c)
        return ⟨⟨command, a, b, c⟩⟩) := rfl

/-- Parts that fit make the word that has them. -/
theorem ofParts_of_fits {given : WordGroups UInt16}
    (fits : ∀ group, (given.get group).toNat ≤ 4095)
    : ∃ word, ofParts given = .ok word ∧ word.parts = given := by
  have checked (group : WordGroup) := check_of_fits group (fits group)
  exact ⟨_, by rw [ofParts_eq, checked, checked, checked, checked]; rfl, rfl⟩

/-- Making a word of parts refuses the first that does not fit: those before it pass the check,
and those after it are not looked at.
-/
theorem ofParts_of_firstWide {given : WordGroups UInt16} {group : WordGroup}
    (first : given.FirstWide group)
    : ofParts given = .error (.groupTooWide group (given.get group)) := by
  have wide := check_of_wide group first.holds
  have fits (other : WordGroup) (precedes : other.Precedes group) :=
    check_of_fits other (Nat.le_of_not_lt (first.earlier other precedes))
  rw [ofParts_eq]
  cases group with
  | command =>
      rw [wide]
      rfl
  | a =>
      rw [fits .command (by decide), wide]
      rfl
  | b =>
      rw [fits .command (by decide), fits .a (by decide), wide]
      rfl
  | c =>
      rw [fits .command (by decide), fits .a (by decide), fits .b (by decide), wide]
      rfl

theorem ofParts_of_wide {given : WordGroups UInt16} {group : WordGroup}
    (wide : 4095 < (given.get group).toNat)
    : ∃ error, ofParts given = .error error := by
  have some : ∃ group, 4095 < (given.get group).toNat := ⟨group, wide⟩
  obtain ⟨first, isFirst⟩ := WordGroup.exists_isFirst some
  exact ⟨_, ofParts_of_firstWide isFirst⟩

/-- The words that parts can make are all words, each made of its own parts alone. -/
theorem ofParts_eq_ok_iff {given : WordGroups UInt16} {word : Word}
    : ofParts given = .ok word ↔ word.parts = given := by
  constructor
  · intro made
    have fits : ∀ group, (given.get group).toNat ≤ 4095 := by
      intro group
      refine Nat.le_of_not_lt fun wide => ?_
      obtain ⟨error, refusal⟩ := ofParts_of_wide wide
      rw [refusal] at made
      cases made
    obtain ⟨other, same, parts⟩ := ofParts_of_fits fits
    rw [same] at made
    cases made
    exact parts
  · rintro rfl
    have fits : ∀ group, (word.parts.get group).toNat ≤ 4095 := by
      intro group
      rw [get_parts]
      exact word.toNat_part_le group
    obtain ⟨other, made, parts⟩ := ofParts_of_fits fits
    rw [made, eq_of_parts_eq parts]

theorem setValue_of_fits (word : Word) {number : UInt64} (fits : number.toNat < 2 ^ 48)
    : ∃ changed,
        word.setValue number = .ok changed
        ∧ changed.parts = unpack number
        ∧ changed.value = number := by
  have within : number ≤ wordMax := (le_wordMax_iff number).mpr fits
  refine ⟨_, by rw [setValue, if_pos within], rfl, ?_⟩
  exact pack_unpack fits

theorem setValue_of_wide (word : Word) {number : UInt64} (wide : ¬ number.toNat < 2 ^ 48)
    : word.setValue number = .error (.valueTooLarge number) := by
  rw [setValue, if_neg (mt (le_wordMax_iff number).mp wide)]

theorem setPart_of_fits (word : Word) (group : WordGroup) {part : UInt16}
    (fits : part.toNat ≤ 4095)
    : ∃ changed,
        word.setPart group part = .ok changed ∧ changed.parts = word.parts.set group part := by
  refine ⟨⟨word.groups.set group ⟨part, UInt16.le_iff_toNat_le.mpr fits⟩⟩, ?_, ?_⟩
  · rw [setPart, check_of_fits group fits]
    rfl
  · refine WordGroups.ext_get _ _ fun other => ?_
    rw [get_parts, Word.part]
    by_cases same : other = group
    · subst same
      rw [WordGroups.get_set_self, WordGroups.get_set_self]
    · rw [WordGroups.get_set_of_ne _ _ _ _ same, WordGroups.get_set_of_ne _ _ _ _ same,
        get_parts, Word.part]

theorem setPart_of_wide (word : Word) (group : WordGroup) {part : UInt16}
    (wide : 4095 < part.toNat)
    : word.setPart group part = .error (.groupTooWide group part) := by
  rw [setPart, check_of_wide group wide]
  rfl

end Word

end CardListing
