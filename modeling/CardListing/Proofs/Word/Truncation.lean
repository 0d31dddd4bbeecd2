import CardListing.Proofs.Word.Packing

/-! Packing and unpacking undo each other up to the bits that they drop. Of every part only
the lowest 12 bits get into the packed value, and of a number only the lowest 48 into the
parts; nothing gets into a neighbouring group.
-/

namespace CardListing

namespace Word

/-- What unpacking gives is what the groups hold, before it is made a part. -/
theorem toUInt64_get_unpack (value : UInt64) (group : WordGroup)
    : ((unpack value).get group).toUInt64 = group.bits.get value wordBits := by
  rw [← UInt64.toNat_inj, UInt16.toNat_toUInt64, toNat_get_unpack]

/-- Unpacking a packed value gives the lowest 12 bits of the parts. -/
theorem unpack_pack (parts : WordGroups UInt16)
    : unpack (pack parts) = parts.map fun part => part % 4096 := by
  refine WordGroups.ext_get _ _ fun group => UInt16.toNat_inj.mp ?_
  rw [toNat_get_unpack, toNat_get_pack, WordGroups.get_map, UInt16.toNat_mod]
  rfl

theorem unpack_congr {left right : UInt64}
    (same : left.toNat % 2 ^ wordBits = right.toNat % 2 ^ wordBits)
    : unpack left = unpack right := by
  refine WordGroups.ext_get _ _ fun group => UInt16.toNat_inj.mp ?_
  rw [toNat_get_unpack, toNat_get_unpack, BitSpan.get_congr group.isWithin_bits same]

/-- The lowest 48 bits of a number. -/
def lowest (value : UInt64) : UInt64 := UInt64.ofNat (value.toNat % 2 ^ wordBits)

theorem toNat_lowest (value : UInt64) : (lowest value).toNat = value.toNat % 2 ^ wordBits := by
  have bound := Nat.lt_of_le_of_lt (Nat.mod_le value.toNat (2 ^ wordBits)) value.toNat_lt
  exact UInt64.toNat_ofNat_of_lt' bound

theorem unpack_lowest (value : UInt64) : unpack (lowest value) = unpack value := by
  refine unpack_congr ?_
  rw [toNat_lowest, Nat.mod_mod]

/-- Packing adds up the lowest 12 bits of the parts by their weights, which never is more than
the largest word, and unpacking gives them back. Unpacking a number gives parts of 12 bits,
so nothing is lost when they are made parts; they are those of its lowest 48 bits, and
packing them gives these back.
-/
theorem pack_unpack_truncate
    : (∀ parts : WordGroups UInt16,
        (pack parts).toNat
          = parts.command.toNat % 4096 * 2 ^ 36
            + parts.a.toNat % 4096 * 2 ^ 24
            + parts.b.toNat % 4096 * 2 ^ 12
            + parts.c.toNat % 4096
        ∧ pack parts ≤ wordMax
        ∧ unpack (pack parts) = parts.map fun part => part % 4096)
      ∧ ∀ value : UInt64,
        (∀ group,
          ((unpack value).get group).toNat ≤ 4095
          ∧ ((unpack value).get group).toUInt64 = group.bits.get value wordBits)
        ∧ unpack value = unpack (lowest value)
        ∧ (lowest value).toNat = value.toNat % 2 ^ 48
        ∧ pack (unpack value) = lowest value := by
  constructor
  · intro parts
    exact ⟨toNat_pack parts, (le_wordMax_iff _).mpr (toNat_pack_lt parts), unpack_pack parts⟩
  · intro value
    have small : (lowest value).toNat < 2 ^ wordBits := by
      rw [toNat_lowest]
      exact Nat.mod_lt _ (Nat.two_pow_pos wordBits)
    refine ⟨fun group => ?_, (unpack_lowest value).symm, toNat_lowest value, ?_⟩
    · exact ⟨Nat.le_of_lt_succ (toNat_get_unpack_lt value group), toUInt64_get_unpack value group⟩
    · rw [← unpack_lowest, pack_unpack small]

end Word

end CardListing
