import CardListing.Proofs.Word.ValueBijection
import CardListing.Word.Definition

/-! The ways to make a word of parts agree. Parts can be given all at once, set one after the
other in a word that there is already, or written down in a definition; each way checks them in
the order of the groups, refuses the first that does not fit, and otherwise ends in the word
whose value packs them.
-/

namespace CardListing

namespace Word

variable {given : WordGroups UInt16}

/-- Making a word of parts is refused for the first part that does not fit, and for no other
reason.
-/
theorem ofParts_eq_error_iff {refusal : Refusal}
    : ofParts given = .error refusal
      ↔ ∃ group, given.FirstWide group ∧ refusal = .groupTooWide group (given.get group) := by
  constructor
  · intro refused
    by_cases wide : ∃ group, 4095 < (given.get group).toNat
    · obtain ⟨group, first⟩ := WordGroup.exists_isFirst wide
      rw [ofParts_of_firstWide first] at refused
      exact ⟨group, first, (Except.error.inj refused).symm⟩
    · have fits := fun group => Nat.le_of_not_lt (not_exists.mp wide group)
      obtain ⟨word, made, _⟩ := ofParts_of_fits fits
      rw [made] at refused
      cases refused
  · rintro ⟨group, first, rfl⟩
    exact ofParts_of_firstWide first

theorem exists_ofParts_eq_error_iff
    : (∃ refusal, ofParts given = .error refusal)
      ↔ ∃ group, 4095 < (given.get group).toNat := by
  constructor
  · rintro ⟨refusal, refused⟩
    obtain ⟨group, first, _⟩ := ofParts_eq_error_iff.mp refused
    exact ⟨group, first.holds⟩
  · rintro ⟨group, wide⟩
    exact ofParts_of_wide wide

-----------------------------------------------------------------------------------------
-- One part after the other
-----------------------------------------------------------------------------------------

/-- The word with some groups set one after the other, until a part does not fit. -/
def setParts (word : Word) (given : WordGroups UInt16) (groups : List WordGroup)
    : Except Refusal Word :=
  groups.foldlM (fun word group => word.setPart group (given.get group)) word

theorem setParts_cons {word changed : Word} {first : WordGroup}
    (h : word.setPart first (given.get first) = .ok changed) (rest : List WordGroup)
    : word.setParts given (first :: rest) = changed.setParts given rest := by
  rw [setParts, List.foldlM_cons, h]
  rfl

/-- Parts that fit are all set, and the other groups stay as they were. By induction over the
groups that are set.
-/
theorem setParts_of_fits {groups : List WordGroup}
    (fits : ∀ group ∈ groups, (given.get group).toNat ≤ 4095) (word : Word)
    : ∃ changed,
        word.setParts given groups = .ok changed
        ∧ ∀ group,
          changed.part group = if group ∈ groups then given.get group else word.part group := by
  induction groups generalizing word with
  | nil => exact ⟨word, rfl, fun group => by rw [if_neg List.not_mem_nil]⟩
  | cons first rest ih =>
      obtain ⟨between, one, parts⟩ := word.setPart_of_fits first (fits first List.mem_cons_self)
      obtain ⟨changed, others, read⟩ :=
        ih (fun group among => fits group (List.mem_cons_of_mem _ among)) between
      refine ⟨changed, by rw [setParts_cons one, others], fun group => ?_⟩
      rw [read, ← get_parts between, parts]
      by_cases later : group ∈ rest
      · rw [if_pos later, if_pos (List.mem_cons_of_mem _ later)]
      by_cases same : group = first
      · subst same
        rw [if_neg later, if_pos List.mem_cons_self, WordGroups.get_set_self]
      · rw [if_neg later, if_neg (by simp [later, same]), WordGroups.get_set_of_ne _ _ _ _ same,
          get_parts]

/-- The first part that does not fit is refused, whatever has been set before it and whatever
would be set after it.
-/
theorem setParts_of_wide {before : List WordGroup} {group : WordGroup}
    (fits : ∀ earlier ∈ before, (given.get earlier).toNat ≤ 4095)
    (wide : 4095 < (given.get group).toNat) (after : List WordGroup) (word : Word)
    : word.setParts given (before ++ group :: after)
      = .error (.groupTooWide group (given.get group)) := by
  obtain ⟨changed, set, _⟩ := setParts_of_fits fits word
  rw [setParts] at set
  rw [setParts, List.foldlM_append, set]
  change changed.setParts given (group :: after) = _
  rw [setParts, List.foldlM_cons, setPart_of_wide _ _ wide]
  rfl

/-- Setting all groups of a word leaves nothing of it, so the result is that of making a word
of the parts.
-/
theorem setParts_all (word : Word) : word.setParts given WordGroup.all = ofParts given := by
  cases found : WordGroup.all.find? fun group => 4095 < (given.get group).toNat with
  | none =>
      have fits : ∀ group ∈ WordGroup.all, (given.get group).toNat ≤ 4095 := by
        simpa using List.find?_eq_none.mp found
      obtain ⟨changed, set, read⟩ := setParts_of_fits fits word
      have parts : changed.parts = given := by
        refine WordGroups.ext_get _ _ fun group => ?_
        rw [get_parts, read, if_pos group.mem_all]
      rw [set, ofParts_eq_ok_iff.mpr parts]
  | some group =>
      have refused := ofParts_of_firstWide (WordGroup.find?_all_eq_some_iff.mp found)
      obtain ⟨wide, before, after, split, earlier⟩ := List.find?_eq_some_iff_append.mp found
      rw [refused, split]
      exact setParts_of_wide (by simpa using earlier) (of_decide_eq_true wide) after word

/-- The word with its four groups set in their order, until a part does not fit. -/
def setAll (word : Word) (definition : WordDefinition) : Except Refusal Word := do
  let word ← word.setCommand definition.command
  let word ← word.setA definition.a
  let word ← word.setB definition.b
  word.setC definition.c

theorem setAll_eq (word : Word) (definition : WordDefinition)
    : word.setAll definition = ofParts definition.groups := by
  rw [← setParts_all word]
  simp only [setAll, setParts, WordGroup.all, List.foldlM_cons, List.foldlM_nil, bind_pure]
  rfl

-----------------------------------------------------------------------------------------
-- All ways
-----------------------------------------------------------------------------------------

/-- The word that is made of parts is the word of their packed value. -/
theorem ofValue_pack {word : Word} (h : ofParts given = .ok word)
    : ofValue (pack given) = .ok word := by
  rw [← ofParts_eq_ok_iff.mp h]
  exact word.ofValue_value

/-- Making a word of the parts of a definition is refused exactly if a part is above 4095, and
the refusal names the first such group and its part. Setting the groups in order in any word
gives the same word or the same refusal, and so does making the definition a word. The word that
is made is the word of the packed parts, has these parts, and is written down as the definition.
-/
theorem ways_of_making_agree (definition : WordDefinition)
    : ((∃ refusal, ofParts definition.groups = .error refusal)
        ↔ ∃ group, 4095 < (definition.groups.get group).toNat)
      ∧ (∀ refusal,
        ofParts definition.groups = .error refusal
        ↔ ∃ group,
          definition.groups.FirstWide group
          ∧ refusal = .groupTooWide group (definition.groups.get group))
      ∧ (∀ word : Word, word.setAll definition = ofParts definition.groups)
      ∧ ofDefinition definition = ofParts definition.groups
      ∧ ∀ word,
        ofParts definition.groups = .ok word
        → ofValue (pack definition.groups) = .ok word
          ∧ word.command = definition.command
          ∧ word.a = definition.a
          ∧ word.b = definition.b
          ∧ word.c = definition.c
          ∧ (∀ group, word.part group = definition.groups.get group)
          ∧ WordDefinition.ofWord word = definition := by
  refine ⟨exists_ofParts_eq_error_iff, fun _ => ofParts_eq_error_iff,
    fun word => word.setAll_eq definition, rfl, fun word made => ?_⟩
  have read (group : WordGroup) : word.part group = definition.groups.get group := by
    rw [← get_parts, ofParts_eq_ok_iff.mp made]
  have command : word.command = definition.command := read .command
  have a : word.a = definition.a := read .a
  have b : word.b = definition.b := read .b
  have c : word.c = definition.c := read .c
  refine ⟨ofValue_pack made, command, a, b, c, read, ?_⟩
  rw [WordDefinition.ofWord, command, a, b, c]

/-- A definition whose parts fit, and the word of its packed value. -/
theorem ways_of_making_agree_largest
    : ∃ word,
        ofParts (WordDefinition.mk 1 2 3 4095).groups = .ok word
        ∧ ofValue 68753047551 = .ok word
        ∧ word.c = 4095
        ∧ WordDefinition.ofWord word = ⟨1, 2, 3, 4095⟩ := by
  have agree := ways_of_making_agree ⟨1, 2, 3, 4095⟩
  have fits (group : WordGroup)
      : ((WordDefinition.mk 1 2 3 4095).groups.get group).toNat ≤ 4095 := by
    cases group <;> decide
  obtain ⟨word, made, _⟩ := ofParts_of_fits fits
  obtain ⟨same, _, _, _, c, _, written⟩ := agree.2.2.2.2 word made
  refine ⟨word, made, ?_, c, written⟩
  rw [← same]
  rfl

end Word

end CardListing
