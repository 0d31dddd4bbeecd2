import CardListing.Proofs.Word.JsonDecoding

/-! Values that can be parts of a word. An integer literal from 0 to 65535 is read as the part
that it names; every other value is refused, and its form and size say how.
-/

namespace CardListing

open Json (DecodeError)

namespace Json

/-- The value can be a part: it is a literal without sign, fraction and exponent, for a number
of 16 bits.
-/
def IsPart (json : Json) : Prop := ∃ n, n ≤ 65535 ∧ json = natural n

/-- The value is a number that is clearly below the greatest floating point number, or a string
whose escapes name characters, or no number and no string.
-/
def Plain : Json → Prop
  | scalar (.number literal) => literal.AtMost Double.safelyFinite
  | scalar (.string text) => text ≠ none
  | _ => True

/-- The value cannot be a part, for this reason: it is an integer of 64 bits that is too large or
negative, a number with another form or size, which is taken as floating point, or something
else.
-/
inductive Unfit (decoder : DefinitionDecoder) : Json → DecodeError → Prop
  | large {n : Nat} (large : 65535 < n) (word : n < 2 ^ 64)
    : Unfit decoder (natural n) (.outOfRange n .part)
  | negative {n : Nat} (nonzero : 0 < n) (word : n ≤ 2 ^ 63)
    : Unfit decoder (scalar (.number { negative := true, whole := n })) (.outOfRange (-n) .part)
  | float {literal x} (noInteger : literal.integer? = none)
    (stands : decoder.float? literal = some x)
    : Unfit decoder (scalar (.number literal)) (.wrongType (.float x) .part)
  | null : Unfit decoder null (.wrongType .null .part)
  | bool {value} : Unfit decoder (scalar (.bool value)) (.wrongType (.bool value) .part)
  | string {text} : Unfit decoder (string text) (.wrongType (.string text) .part)
  | array {items} : Unfit decoder (array items) (.wrongType .array .part)
  | object {members} : Unfit decoder (object members) (.wrongType .object .part)

theorem Number.integer?_natural {n : Nat} (h : n < 2 ^ 64)
    : integer? { whole := n } = some (n : Int) := by
  rw [integer?, if_pos ⟨rfl, by simp, h⟩]

theorem Number.integer?_negative {n : Nat} (nonzero : 0 < n) (word : n ≤ 2 ^ 63)
    : integer? { negative := true, whole := n } = some (-n : Int) := by
  rw [integer?, if_neg (by simp), if_pos ⟨rfl, rfl, nonzero, word⟩]

/-- A literal is an integer only if it is written as one. -/
theorem Number.eq_of_integer? {literal : Number} {i : Int} (h : literal.integer? = some i)
    : (∃ n : Nat, n < 2 ^ 64 ∧ literal = { whole := n })
      ∨ ∃ n : Nat, 0 < n ∧ n ≤ 2 ^ 63 ∧ literal = { negative := true, whole := n } := by
  obtain ⟨negative, whole, fraction, exponent⟩ := literal
  have plain : isInteger ⟨negative, whole, fraction, exponent⟩ = true
      → fraction = [] ∧ exponent = none := by
    simp [isInteger]
  rw [integer?] at h
  split at h
  · rename_i within
    obtain ⟨rfl, rfl⟩ := plain within.1
    obtain rfl : negative = false := by simpa using within.2.1
    exact .inl ⟨whole, within.2.2, rfl⟩
  · split at h
    · rename_i within
      obtain ⟨rfl, rfl⟩ := plain within.1
      obtain rfl : negative = true := within.2.1
      exact .inr ⟨whole, within.2.2.1, within.2.2.2, rfl⟩
    · cases h

theorem isPart_natural (part : UInt16) : (natural part.toNat).IsPart :=
  ⟨part.toNat, Nat.le_of_lt_succ part.toNat_lt, rfl⟩

end Json

namespace DefinitionDecoder

variable {decoder : DefinitionDecoder}

theorem isPart_or_unfit (notices : decoder.NoticesFaults) {json : Json} (plain : json.Plain)
    : json.IsPart ∨ ∃ error, json.Unfit decoder error := by
  cases json with
  | array => exact .inr ⟨_, .array⟩
  | object => exact .inr ⟨_, .object⟩
  | scalar s =>
      cases s with
      | null => exact .inr ⟨_, .null⟩
      | bool => exact .inr ⟨_, .bool⟩
      | string text? =>
          cases text? with
          | none => exact (plain rfl).elim
          | some => exact .inr ⟨_, .string⟩
      | number literal =>
          cases stands : literal.integer? with
          | none =>
              obtain ⟨x, float⟩ := Option.isSome_iff_exists.mp (notices.finite literal plain)
              exact .inr ⟨_, .float stands float⟩
          | some =>
              obtain ⟨n, word, rfl⟩ | ⟨n, nonzero, word, rfl⟩ := Json.Number.eq_of_integer? stands
              · by_cases small : n ≤ 65535
                · exact .inl ⟨n, small, rfl⟩
                · exact .inr ⟨_, .large (Nat.lt_of_not_le small) word⟩
              · exact .inr ⟨_, .negative nonzero word⟩

theorem part_of_isPart (reads : decoder.ReadsDefinitions) {json : Json} (h : json.IsPart)
    : ∃ part : UInt16, json = .natural part.toNat ∧ decoder.part json = .ok part := by
  obtain ⟨n, small, rfl⟩ := h
  have same : (UInt16.ofNat n).toNat = n := UInt16.toNat_ofNat_of_lt' (Nat.lt_succ_of_le small)
  exact ⟨.ofNat n, by rw [same], by rw [← same, reads.natural, same]⟩

theorem part_of_unfit (notices : decoder.NoticesFaults) {json : Json} {error : DecodeError}
    (h : json.Unfit decoder error)
    : decoder.part json = .error error := by
  cases h with
  | large large word =>
      exact notices.integer _ _ (Json.Number.integer?_natural word) (by omega)
  | negative nonzero word =>
      exact notices.integer _ _ (Json.Number.integer?_negative nonzero word) (by omega)
  | float noInteger stands => exact notices.float _ _ noInteger stands
  | null => exact notices.null
  | bool => exact notices.bool _
  | string => exact notices.string _
  | array => exact notices.sequence _
  | object => exact notices.map _

theorem isPart_iff (reads : decoder.ReadsDefinitions) (notices : decoder.NoticesFaults)
    {json : Json} (plain : json.Plain)
    : json.IsPart ↔ ∀ error, ¬ json.Unfit decoder error := by
  constructor
  · intro part error unfit
    obtain ⟨_, _, read⟩ := part_of_isPart reads part
    rw [part_of_unfit notices unfit] at read
    cases read
  · intro fit
    obtain part | ⟨error, unfit⟩ := isPart_or_unfit notices plain
    · exact part
    · exact (fit error unfit).elim

theorem not_unfit_natural (reads : decoder.ReadsDefinitions) (notices : decoder.NoticesFaults)
    (part : UInt16) (error : DecodeError)
    : ¬ (Json.natural part.toNat).Unfit decoder error := by
  intro unfit
  have read := reads.natural part
  rw [part_of_unfit notices unfit] at read
  cases read

theorem unfit_unique (notices : decoder.NoticesFaults) {json : Json} {error other : DecodeError}
    (h : json.Unfit decoder error) (h' : json.Unfit decoder other)
    : error = other :=
  Except.error.inj ((part_of_unfit notices h).symm.trans (part_of_unfit notices h'))

end DefinitionDecoder

end CardListing
