import CardListing.Proofs.Word.Making

/-! Words and numbers of 48 bits name each other. The parts of a word are the digits of its
value in base 4096, so a number below the bound has one word, found by dividing, and a word
has one value, found by adding up.
-/

namespace CardListing

namespace Word

/-- The value of a word adds up its parts by their weights; parts are digits, so nothing
overflows into the next one.
-/
theorem toNat_value (word : Word)
    : word.value.toNat
      = (word.part .command).toNat * 2 ^ 36
        + (word.part .a).toNat * 2 ^ 24
        + (word.part .b).toNat * 2 ^ 12
        + (word.part .c).toNat := by
  have packed := toNat_pack word.parts
  have command := word.toNat_part_le .command
  have a := word.toNat_part_le .a
  have b := word.toNat_part_le .b
  have c := word.toNat_part_le .c
  rw [value, packed]
  simp only [parts, WordGroups.ofFn]
  omega

/-- The parts of a word are what division finds in its value. -/
theorem toNat_part_eq (word : Word) (group : WordGroup)
    : (word.part group).toNat = word.value.toNat / group.weight % 4096 := by
  rw [← toNat_get_bits, ← toUInt64_part, UInt16.toNat_toUInt64]

theorem value_injective {left right : Word} (h : left.value = right.value) : left = right := by
  refine eq_of_part_eq fun group => UInt16.toNat_inj.mp ?_
  rw [toNat_part_eq, toNat_part_eq, h]

/-- The word of the value of a word is that word. -/
theorem ofValue_value (word : Word) : ofValue word.value = .ok word := by
  have fits : word.value.toNat < 2 ^ 48 := (le_wordMax_iff _).mp word.value_le_wordMax
  obtain ⟨other, made, _, same⟩ := zero.setValue_of_fits fits
  rw [ofValue, made, value_injective same]

/-- Numbers below `2 ^ 48` have a word, whose value they are and whose parts are found by
division, and other numbers are refused. Words, which are all that parts can make, have a
value that adds up their parts and from which the word is made again; so different words
have different values.
-/
theorem value_bijective
    : (∀ number : UInt64,
        if number.toNat < 2 ^ 48 then
          ∃ word,
            ofValue number = .ok word
            ∧ word.value = number
            ∧ (word.part .command).toNat = number.toNat / 2 ^ 36
            ∧ (word.part .a).toNat = number.toNat / 2 ^ 24 % 4096
            ∧ (word.part .b).toNat = number.toNat / 2 ^ 12 % 4096
            ∧ (word.part .c).toNat = number.toNat % 4096
        else
          ofValue number = .error (.valueTooLarge number))
      ∧ (∀ given word, ofParts given = .ok word ↔ word.parts = given)
      ∧ (∀ word : Word,
        word.value.toNat
          = (word.part .command).toNat * 2 ^ 36
            + (word.part .a).toNat * 2 ^ 24
            + (word.part .b).toNat * 2 ^ 12
            + (word.part .c).toNat
        ∧ word.value ≤ wordMax
        ∧ ofValue word.value = .ok word)
      ∧ ∀ left right : Word, left = right ↔ left.value = right.value := by
  refine ⟨?_, fun _ _ => ofParts_eq_ok_iff, ?_, ?_⟩
  · intro number
    split
    · rename_i fits
      obtain ⟨word, made, _, same⟩ := zero.setValue_of_fits fits
      have command := word.toNat_part_eq .command
      have a := word.toNat_part_eq .a
      have b := word.toNat_part_eq .b
      have c := word.toNat_part_eq .c
      rw [same] at command a b c
      simp only [WordGroup.weight] at command a b c
      refine ⟨word, made, same, ?_, a, b, ?_⟩ <;> omega
    · rename_i wide
      exact zero.setValue_of_wide wide
  · intro word
    exact ⟨word.toNat_value, word.value_le_wordMax, word.ofValue_value⟩
  · intro left right
    exact ⟨congrArg value, value_injective⟩

end Word

end CardListing
