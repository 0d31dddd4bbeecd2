import CardListing.Proofs.OctalDigits
import CardListing.Proofs.Word.ValueBijection
import CardListing.Word.Octal

/-! The two ways to write a word in octal. A group of 12 bits is a field of four octal digits, so
the groups of a word one after the other are a field of sixteen that spells its value, which is
what its value written in sixteen places is as well.
-/

namespace CardListing

theorem IsOctalDigit.ne_blank {c : Char} (h : IsOctalDigit c) : c ≠ ' ' := by
  obtain ⟨d, small, rfl⟩ := h
  revert d
  decide

namespace Word

variable (word : Word)

/-- A group is below `8 ^ 4`, so it is a field of four digits. -/
theorem isOctalField_octalGroup (group : WordGroup)
    : IsOctalField (word.octalGroup group) 4 (word.part group).toNat :=
  isOctalField_leftpad (by decide) (Nat.lt_succ_of_le (word.toNat_part_le group))

theorem blank_not_mem_octalGroup (group : WordGroup) : ' ' ∉ word.octalGroup group := fun among =>
  ((word.isOctalField_octalGroup group).digits ' ' among).ne_blank rfl

/-- The blanks of the grouped form are those between the groups. -/
theorem splitOn_display : word.display.splitOn ' ' = WordGroup.all.map word.octalGroup := by
  refine List.splitOn_intercalate ' ' ?_ (List.cons_ne_nil _ _)
  intro text among
  obtain ⟨group, _, rfl⟩ := List.mem_map.mp among
  exact word.blank_not_mem_octalGroup group

/-- The digits of the grouped form, without the blanks. -/
def groupDigits : Text := word.display.filter (· != ' ')

theorem groupDigits_eq
    : word.groupDigits
      = word.octalGroup .command ++ word.octalGroup .a ++ word.octalGroup .b
        ++ word.octalGroup .c := by
  have kept (group : WordGroup)
      : (word.octalGroup group).filter (· != ' ') = word.octalGroup group := by
    refine List.filter_eq_self.mpr fun c among => ?_
    exact bne_iff_ne.mpr ((word.isOctalField_octalGroup group).digits c among).ne_blank
  simp [groupDigits, display, WordGroup.all, List.intercalate, kept]

/-- The weight of a group is that of as many places as the groups behind it have, so the digits of
the groups spell the value.
-/
theorem isOctalField_groupDigits : IsOctalField word.groupDigits 16 word.value.toNat := by
  have joined :=
    (((word.isOctalField_octalGroup .command).append (word.isOctalField_octalGroup .a)).append
      (word.isOctalField_octalGroup .b)).append (word.isOctalField_octalGroup .c)
  rw [← groupDigits_eq] at joined
  refine ⟨joined.length, joined.digits, joined.reads.trans ?_⟩
  rw [toNat_value]
  omega

theorem toNat_value_lt : word.value.toNat < 8 ^ 16 := (le_wordMax_iff _).mp word.value_le_wordMax

theorem groupDigits_eq_leftpad
    : word.groupDigits = (octalDigits word.value.toNat).leftpad 16 '0' :=
  word.isOctalField_groupDigits.eq (isOctalField_leftpad (by decide) word.toNat_value_lt)

theorem octal_plain : word.octal {} = octalDigits word.value.toNat := by
  simp [octal, NumeralStyle.octal, NumeralStyle.write, NumeralStyle.lead, Alignment.pad,
    List.leftpad]

theorem octal_zeros (width : Nat)
    : word.octal { width, zeros := true } = (octalDigits word.value.toNat).leftpad width '0' := by
  simp [octal, NumeralStyle.octal, NumeralStyle.write, NumeralStyle.lead]

/-- The value in octal is the digits of the groups from the first one on that is not zero. -/
theorem octal_plain_eq_dropWhile
    : word.octal {} = if word = zero then ['0'] else word.groupDigits.dropWhile (· == '0') := by
  have value_zero : zero.value.toNat = 0 := rfl
  rw [octal_plain]
  split
  · rename_i same
    rw [same, value_zero]
    rfl
  · rename_i other
    have nonzero : word.value.toNat ≠ 0 := fun none =>
      other (value_injective (UInt64.toNat_inj.mp (none.trans value_zero.symm)))
    rw [groupDigits_eq_leftpad, dropWhile_leftpad_octalDigits nonzero]

/-- The digits of the grouped form spell the value, so it tells the word. -/
theorem display_injective {left right : Word} (h : left.display = right.display)
    : left = right := by
  refine value_injective (UInt64.toNat_inj.mp ?_)
  rw [← left.isOctalField_groupDigits.reads, groupDigits, h]
  exact right.isOctalField_groupDigits.reads

/-- The grouped form of a word is four groups between single blanks, each a field of four octal
digits that spells its part. Its digits are the value in sixteen places, which is how the value
is written with zeros before it, and spell the value; without the zeros at their front they are
the value in octal, but for the word of zeros, which is `0`. Words with the same grouped form
are the same.
-/
theorem display_agrees_with_octal
    : word.display.splitOn ' ' = WordGroup.all.map word.octalGroup
      ∧ (∀ group, IsOctalField (word.octalGroup group) 4 (word.part group).toNat)
      ∧ word.groupDigits = (octalDigits word.value.toNat).leftpad 16 '0'
      ∧ word.groupDigits = word.octal { width := 16, zeros := true }
      ∧ IsOctalField word.groupDigits 16 word.value.toNat
      ∧ word.octal {} = (if word = zero then ['0'] else word.groupDigits.dropWhile (· == '0'))
      ∧ ∀ other : Word, word.display = other.display ↔ word = other := by
  refine ⟨word.splitOn_display, word.isOctalField_octalGroup, word.groupDigits_eq_leftpad, ?_,
    word.isOctalField_groupDigits, word.octal_plain_eq_dropWhile, fun other => ?_⟩
  · rw [octal_zeros, groupDigits_eq_leftpad]
  · exact ⟨display_injective, congrArg display⟩

end Word

end CardListing
