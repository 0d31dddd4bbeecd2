import CardListing.Proofs.BitSpan.Tilings
import CardListing.Word.Basic

/-! Groups of a word and its packed value. The spans of the groups share no bit and cover the
word, so a number of 48 bits is told by what is read from them, packing writes every group
once, and replacing a group is writing its span.
-/

namespace CardListing

namespace WordGroup

theorem isWithin_bits (group : WordGroup) : group.bits.isWithin wordBits = true := by
  cases group <;> rfl

@[simp] theorem length_bits (group : WordGroup) : group.bits.length = 12 := by
  cases group <;> rfl

theorem disjoint_bits {group other : WordGroup} (h : group ≠ other)
    : group.bits.Disjoint other.bits := by
  revert h
  cases group <;> cases other <;> decide

/-- The weight that the least significant bit of the group has in a word. -/
def weight : WordGroup → Nat
  | command => 2 ^ 36
  | a => 2 ^ 24
  | b => 2 ^ 12
  | c => 1

/-- The groups divide the word among them. -/
theorem tiles_bits : BitSpan.Tiles 1 (all.map bits) wordBits := by decide

/-- Every bit of a word belongs to a group. -/
theorem exists_covers {i : Nat} (h : i < wordBits)
    : ∃ group : WordGroup, group.bits.Covers wordBits i := by
  obtain ⟨_, member, covered⟩ := tiles_bits.exists_covers h
  obtain ⟨group, _, rfl⟩ := List.mem_map.mp member
  exact ⟨group, covered⟩

end WordGroup

namespace Word

theorem le_wordMax_iff (value : UInt64) : value ≤ wordMax ↔ value.toNat < 2 ^ wordBits := by
  have most : wordMax.toNat = 2 ^ wordBits - 1 := toNat_lowOnes wordBits
  have := Nat.two_pow_pos wordBits
  rw [UInt64.le_iff_toNat_le, most]
  omega

/-- A group is read by dividing by the weight of its least significant bit. -/
theorem toNat_get_bits (value : UInt64) (group : WordGroup)
    : (group.bits.get value wordBits).toNat = value.toNat / group.weight % 4096 := by
  rw [BitSpan.toNat_get group.bits value wordBits group.isWithin_bits]
  cases group <;> rfl

/-- A number of as many bits as a word has is told by its groups. -/
theorem eq_of_get_eq {left right : UInt64} (hl : left.toNat < 2 ^ wordBits)
    (hr : right.toNat < 2 ^ wordBits)
    (h : ∀ group : WordGroup, group.bits.get left wordBits = group.bits.get right wordBits)
    : left = right := by
  refine BitSpan.ext_testBit fun i => ?_
  by_cases inside : i < wordBits
  · obtain ⟨group, covered⟩ := WordGroup.exists_covers inside
    rw [← covered.testBit_get left group.isWithin_bits, h group,
      covered.testBit_get right group.isWithin_bits]
  · have above : 2 ^ wordBits ≤ 2 ^ i :=
      Nat.pow_le_pow_right (by decide) (Nat.le_of_not_lt inside)
    rw [Nat.testBit_lt_two_pow (Nat.lt_of_lt_of_le hl above),
      Nat.testBit_lt_two_pow (Nat.lt_of_lt_of_le hr above)]

-----------------------------------------------------------------------------------------
-- Packing
-----------------------------------------------------------------------------------------

/-- A number with the lowest bits of a part written into its group. -/
def packGroup (parts : WordGroups UInt16) (word : UInt64) (group : WordGroup) : UInt64 :=
  group.bits.set word wordBits (parts.get group).toUInt64

theorem pack_eq (parts : WordGroups UInt16)
    : pack parts = WordGroup.all.foldl (packGroup parts) 0 := rfl

variable (parts : WordGroups UInt16)

/-- A group reads as the lowest bits of its part once that has been written, whatever is
written into other groups later. By induction over the groups written.
-/
theorem toNat_get_foldl_packGroup (groups : List WordGroup) (word : UInt64) (group : WordGroup)
    : (group.bits.get (groups.foldl (packGroup parts) word) wordBits).toNat
      = if group ∈ groups then
          (parts.get group).toNat % 2 ^ 12
        else
          (group.bits.get word wordBits).toNat := by
  induction groups generalizing word with
  | nil => rfl
  | cons first rest ih =>
      rw [List.foldl_cons, ih]
      by_cases later : group ∈ rest
      · simp [later]
      · by_cases same : group = first
        · subst same
          have written := BitSpan.toNat_get_set word (parts.get group).toUInt64
            group.isWithin_bits
          rw [if_neg later, if_pos List.mem_cons_self, packGroup, written, WordGroup.length_bits,
            UInt16.toNat_toUInt64]
        · have apart := BitSpan.get_set_of_disjoint word (parts.get first).toUInt64
            group.isWithin_bits first.isWithin_bits (WordGroup.disjoint_bits same)
          rw [if_neg later, if_neg (by simp [later, same]), packGroup, apart]

theorem toNat_foldl_packGroup_lt (groups : List WordGroup) {word : UInt64}
    (h : word.toNat < 2 ^ wordBits)
    : (groups.foldl (packGroup parts) word).toNat < 2 ^ wordBits := by
  induction groups generalizing word with
  | nil => exact h
  | cons first rest ih => exact ih (BitSpan.toNat_set_lt _ first.isWithin_bits h)

theorem toNat_get_pack (group : WordGroup)
    : (group.bits.get (pack parts) wordBits).toNat = (parts.get group).toNat % 2 ^ 12 := by
  rw [pack_eq, toNat_get_foldl_packGroup, if_pos group.mem_all]

theorem toNat_pack_lt : (pack parts).toNat < 2 ^ wordBits :=
  toNat_foldl_packGroup_lt parts WordGroup.all (by decide)

/-- The packed value in exact arithmetic: the lowest bits of the parts are its digits. Witness:
each group is read back by a division, and the number is below the weight of a fifth digit.
-/
theorem toNat_pack
    : (pack parts).toNat
      = parts.command.toNat % 4096 * 2 ^ 36
        + parts.a.toNat % 4096 * 2 ^ 24
        + parts.b.toNat % 4096 * 2 ^ 12
        + parts.c.toNat % 4096 := by
  have read (group : WordGroup) := toNat_get_pack parts group
  have bound : (pack parts).toNat < 2 ^ 48 := toNat_pack_lt parts
  simp only [toNat_get_bits] at read
  have command := read .command
  have a := read .a
  have b := read .b
  have c := read .c
  simp only [WordGroup.weight, WordGroups.get] at command a b c
  omega

/-- Packing with one part replaced is writing it over the packed value. -/
theorem pack_set (group : WordGroup) (value : UInt16)
    : pack (parts.set group value) = group.bits.set (pack parts) wordBits value.toUInt64 := by
  refine eq_of_get_eq (toNat_pack_lt _)
    (BitSpan.toNat_set_lt _ group.isWithin_bits (toNat_pack_lt parts)) fun other => ?_
  refine UInt64.toNat_inj.mp ?_
  rw [toNat_get_pack]
  by_cases same : other = group
  · subst same
    rw [WordGroups.get_set_self, BitSpan.toNat_get_set _ _ other.isWithin_bits,
      WordGroup.length_bits, UInt16.toNat_toUInt64]
  · rw [WordGroups.get_set_of_ne _ _ _ _ same,
      BitSpan.get_set_of_disjoint _ _ other.isWithin_bits group.isWithin_bits
        (WordGroup.disjoint_bits same),
      toNat_get_pack]

-----------------------------------------------------------------------------------------
-- Unpacking
-----------------------------------------------------------------------------------------

/-- Reading a group loses nothing when it is made a part. -/
theorem toNat_get_unpack (value : UInt64) (group : WordGroup)
    : ((unpack value).get group).toNat = (group.bits.get value wordBits).toNat := by
  have read := BitSpan.toNat_get group.bits value wordBits group.isWithin_bits
  rw [WordGroup.length_bits] at read
  have := Nat.mod_lt (value.toNat / 2 ^ group.bits.shift wordBits) (Nat.two_pow_pos 12)
  rw [unpack, WordGroups.get_ofFn, UInt64.toNat_toUInt16]
  omega

theorem toNat_get_unpack_lt (value : UInt64) (group : WordGroup)
    : ((unpack value).get group).toNat < 2 ^ 12 := by
  rw [toNat_get_unpack, toNat_get_bits]
  exact Nat.mod_lt _ (Nat.two_pow_pos 12)

/-- A number of as many bits as a word has is packed again from its groups. -/
theorem pack_unpack {value : UInt64} (h : value.toNat < 2 ^ wordBits)
    : pack (unpack value) = value := by
  refine eq_of_get_eq (toNat_pack_lt _) h fun group => ?_
  refine UInt64.toNat_inj.mp ?_
  rw [toNat_get_pack, Nat.mod_eq_of_lt (toNat_get_unpack_lt value group), toNat_get_unpack]

end Word

end CardListing
