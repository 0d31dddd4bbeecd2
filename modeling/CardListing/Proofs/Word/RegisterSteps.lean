import CardListing.Proofs.Word.Making
import CardListing.Word.Registers
import Mathlib.Data.List.Forall2

/-! Two registers after any steps. A word's groups and its value say the same, a step is
refused exactly if its number does not fit and then changes nothing, and setting a group
writes its span of the value and touches nothing else.
-/

namespace CardListing

namespace Registers

-----------------------------------------------------------------------------------------
-- How a step goes
-----------------------------------------------------------------------------------------

/-- The numbers that the step is given fit what they are meant for. -/
def Step.Fits : Step → Prop
  | ofParts parts => ∀ group, (parts.get group).toNat ≤ 4095
  | ofValue value | setValue value => value.toNat < 2 ^ 48
  | setCommand value | setA value | setB value | setC value | setPart _ value =>
    value.toNat ≤ 4095
  | part _ | save | swap => True

instance : DecidablePred Step.Fits
  | .ofParts parts =>
    decidable_of_iff (∀ group ∈ WordGroup.all, (parts.get group).toNat ≤ 4095)
      ⟨fun h group => h group group.mem_all, fun h group _ => h group⟩
  | .ofValue value | .setValue value => inferInstanceAs (Decidable (value.toNat < 2 ^ 48))
  | .setCommand value | .setA value | .setB value | .setC value | .setPart _ value =>
    inferInstanceAs (Decidable (value.toNat ≤ 4095))
  | .part _ | .save | .swap => inferInstanceAs (Decidable True)

/-- The group of the current word that the step sets, and the part that it sets it to. -/
def Step.sets? : Step → Option (WordGroup × UInt16)
  | setCommand value => some (.command, value)
  | setA value => some (.a, value)
  | setB value => some (.b, value)
  | setC value => some (.c, value)
  | setPart group value => some (group, value)
  | _ => none

/-- The step makes the word its current word: of its own parts or value, or of the parts of
the word before with one replaced.
-/
def Makes (registers : Registers) (step : Step) (word : Word) : Prop :=
  match step with
  | .ofParts parts => word.parts = parts
  | .ofValue value | .setValue value => word.parts = Word.unpack value ∧ word.value = value
  | _ =>
    ∃ group value,
      step.sets? = some (group, value)
      ∧ word.parts = registers.current.parts.set group value

/-- How a step goes: it makes a word or is refused as its numbers do not fit, or it reads a
group, keeps the current word or exchanges the two.
-/
inductive Goes (registers : Registers) : Step → Registers × Reply → Prop
  | made {step word} (fits : step.Fits) (makes : registers.Makes step word)
    : Goes registers step ({ registers with current := word }, .done)
  | refused {step error} (wide : ¬ step.Fits)
    : Goes registers step (registers, .refused error)
  | read {group}
    : Goes registers (.part group) (registers, .read (registers.current.part group))
  | saved : Goes registers .save ({ registers with saved := registers.current }, .done)
  | swapped
    : Goes registers .swap ({ current := registers.saved, saved := registers.current }, .done)

/-- Every step that sets a group goes as setting that group does. -/
theorem step_of_sets? (registers : Registers) {step : Step} {group : WordGroup} {value : UInt16}
    (h : step.sets? = some (group, value))
    : registers.step step = registers.replace (registers.current.setPart group value) := by
  cases step <;> cases h <;> rfl

theorem fits_iff_of_sets? {step : Step} {group : WordGroup} {value : UInt16}
    (h : step.sets? = some (group, value))
    : step.Fits ↔ value.toNat ≤ 4095 := by
  cases step <;> cases h <;> exact Iff.rfl

theorem makes_iff_of_sets? (registers : Registers) {step : Step} {group : WordGroup}
    {value : UInt16} (h : step.sets? = some (group, value)) (word : Word)
    : registers.Makes step word ↔ word.parts = registers.current.parts.set group value := by
  have only : registers.Makes step word
      ↔ ∃ group value,
        step.sets? = some (group, value)
        ∧ word.parts = registers.current.parts.set group value := by
    cases step <;> first | exact Iff.rfl | cases h
  rw [only]
  constructor
  · rintro ⟨_, _, same, parts⟩
    rw [h] at same
    cases same
    exact parts
  · intro parts
    exact ⟨group, value, h, parts⟩

theorem goes_replace_setValue (registers : Registers) {step : Step} {value : UInt64} (word : Word)
    (fits : step.Fits ↔ value.toNat < 2 ^ 48)
    (makes : ∀ word,
      registers.Makes step word ↔ word.parts = Word.unpack value ∧ word.value = value)
    : registers.Goes step (registers.replace (word.setValue value)) := by
  by_cases h : value.toNat < 2 ^ 48
  · obtain ⟨changed, ok, parts, same⟩ := word.setValue_of_fits h
    rw [ok]
    exact .made (fits.mpr h) ((makes changed).mpr ⟨parts, same⟩)
  · rw [word.setValue_of_wide h]
    exact .refused (mt fits.mp h)

theorem goes_step_of_sets? (registers : Registers) {step : Step} {group : WordGroup}
    {value : UInt16} (h : step.sets? = some (group, value))
    : registers.Goes step (registers.step step) := by
  rw [registers.step_of_sets? h]
  by_cases fits : value.toNat ≤ 4095
  · obtain ⟨word, ok, same⟩ := registers.current.setPart_of_fits group fits
    rw [ok]
    exact .made ((fits_iff_of_sets? h).mpr fits) ((registers.makes_iff_of_sets? h word).mpr same)
  · rw [Word.setPart_of_wide _ _ (Nat.lt_of_not_le fits)]
    exact .refused (mt (fits_iff_of_sets? h).mp fits)

theorem goes_step (registers : Registers) (step : Step)
    : registers.Goes step (registers.step step) := by
  cases step with
  | ofParts parts =>
      rw [Registers.step]
      by_cases fits : ∀ group, (parts.get group).toNat ≤ 4095
      · obtain ⟨word, ok, same⟩ := Word.ofParts_of_fits fits
        rw [ok]
        exact .made fits same
      · obtain ⟨group, wide⟩ := Classical.not_forall.mp fits
        obtain ⟨error, refusal⟩ := Word.ofParts_of_wide (Nat.lt_of_not_le wide)
        rw [refusal]
        exact .refused fits
  | ofValue value => exact registers.goes_replace_setValue _ Iff.rfl fun _ => Iff.rfl
  | setValue value => exact registers.goes_replace_setValue _ Iff.rfl fun _ => Iff.rfl
  | setCommand | setA | setB | setC | setPart => exact registers.goes_step_of_sets? rfl
  | part group => exact .read
  | save => exact .saved
  | swap => exact .swapped

end Registers

-----------------------------------------------------------------------------------------
-- What is known of the registers
-----------------------------------------------------------------------------------------

/-- A word's groups and its value are within their bounds and say the same. -/
structure Word.Consistent (word : Word) : Prop where
  parts : ∀ group, word.part group ≤ groupMax
  value : word.value ≤ wordMax
  spans : ∀ group : WordGroup, (word.part group).toUInt64 = group.bits.get word.value wordBits

theorem Word.consistent (word : Word) : word.Consistent := by
  refine ⟨fun group => ?_, word.value_le_wordMax, word.toUInt64_part⟩
  exact UInt16.le_iff_toNat_le.mpr (word.toNat_part_le group)

namespace Registers

/-- The answer is that the group of the current word has been set: the word reads the value
there and what it read before elsewhere, and its own value has the span of the group replaced.
-/
structure Sets (registers : Registers) (group : WordGroup) (value : UInt16)
    (answer : Registers × Reply)
    : Prop where
  done : answer.2 = .done
  part : answer.1.current.part group = value
  others : ∀ other, other ≠ group → answer.1.current.part other = registers.current.part other
  value
    : answer.1.current.value
      = group.bits.set registers.current.value wordBits value.toUInt64
  saved : answer.1.saved = registers.saved

/-- What is known of the registers: the two words are consistent, and every step that can
follow goes by its rule.
-/
structure Lawful (registers : Registers) : Prop where
  current : registers.current.Consistent
  saved : registers.saved.Consistent
  refused_iff
    : ∀ step, (∃ error, (registers.step step).2 = .refused error) ↔ ¬ step.Fits
  unchanged
    : ∀ step error,
        (registers.step step).2 = .refused error → (registers.step step).1 = registers
  makes
    : ∀ step,
        (registers.step step).2 = .done
        → step ≠ .save
        → step ≠ .swap
        → registers.Makes step (registers.step step).1.current
  sets
    : ∀ step group value,
        step.sets? = some (group, value)
        → step.Fits
        → registers.Sets group value (registers.step step)
  commute
    : ∀ first second group other value value',
        first.sets? = some (group, value)
        → second.sets? = some (other, value')
        → group ≠ other
        → first.Fits
        → second.Fits
        → registers.run [first, second] = registers.run [second, first]
  reads
    : ∀ group,
        registers.step (.part group) = (registers, .read (registers.current.part group))
  keeps : registers.step .save = ({ registers with saved := registers.current }, .done)
  exchanges
    : registers.step .swap
      = ({ current := registers.saved, saved := registers.current }, .done)
  keepsSaved
    : ∀ step, step ≠ .save → step ≠ .swap → (registers.step step).1.saved = registers.saved

/-- What is known of a run of two registers of zeros: the registers that it ends with are
lawful, it has refused those of its steps whose numbers do not fit and no others, and it ends as
it would without these; whatever follows it, only keeping a word and exchanging the two change
the word that it has saved.
-/
structure LawfulRun (steps : List Step) : Prop where
  ends : (run {} steps).Lawful
  refused
    : List.Forall₂ (fun step reply => (∃ error, reply = .refused error) ↔ ¬ step.Fits)
        steps (replies {} steps)
  withoutRefused : run {} (steps.filter fun step => step.Fits) = run {} steps
  keepsSaved
    : ∀ later : List Step,
        (∀ step ∈ later, step ≠ .save ∧ step ≠ .swap)
        → (run {} (steps ++ later)).saved = (run {} steps).saved

variable (registers : Registers)

theorem eq_of_current_of_saved {left right : Registers}
    (current : left.current = right.current) (saved : left.saved = right.saved)
    : left = right := by
  cases left
  cases right
  exact congr (congrArg Registers.mk current) saved

theorem refused_iff (step : Step)
    : (∃ error, (registers.step step).2 = .refused error) ↔ ¬ step.Fits := by
  have goes := registers.goes_step step
  generalize registers.step step = answer at goes
  cases goes with
  | made fits => simp [fits]
  | refused wide => exact ⟨fun _ => wide, fun _ => ⟨_, rfl⟩⟩
  | read | saved | swapped => simp [Step.Fits]

theorem step_of_refused {step : Step} {error : Word.Refusal}
    (h : (registers.step step).2 = .refused error)
    : (registers.step step).1 = registers := by
  have goes := registers.goes_step step
  generalize registers.step step = answer at goes h
  cases goes with
  | refused _ => rfl
  | made | read | saved | swapped => cases h

theorem saved_step {step : Step} (save : step ≠ .save) (swap : step ≠ .swap)
    : (registers.step step).1.saved = registers.saved := by
  have goes := registers.goes_step step
  generalize registers.step step = answer at goes
  cases goes with
  | made | refused | read => rfl
  | saved => exact (save rfl).elim
  | swapped => exact (swap rfl).elim

theorem makes_step {step : Step} (done : (registers.step step).2 = .done)
    (save : step ≠ .save) (swap : step ≠ .swap)
    : registers.Makes step (registers.step step).1.current := by
  have goes := registers.goes_step step
  generalize registers.step step = answer at goes done
  cases goes with
  | made _ makes => exact makes
  | refused | read => cases done
  | saved => exact (save rfl).elim
  | swapped => exact (swap rfl).elim

/-- Setting a group writes its span of the value and leaves all else as it was. -/
theorem sets_step {step : Step} {group : WordGroup} {value : UInt16}
    (sets : step.sets? = some (group, value)) (fits : step.Fits)
    : registers.Sets group value (registers.step step) := by
  have goes := registers.goes_step step
  generalize registers.step step = answer at goes
  cases goes with
  | refused wide => exact (wide fits).elim
  | read | saved | swapped => cases sets
  | @made _ word _ makes =>
      have parts := (registers.makes_iff_of_sets? sets word).mp makes
      have read (other : WordGroup)
          : word.part other = (registers.current.parts.set group value).get other := by
        rw [← Word.get_parts, parts]
      refine ⟨rfl, ?_, ?_, ?_, rfl⟩
      · rw [read, WordGroups.get_set_self]
      · intro other ne
        rw [read, WordGroups.get_set_of_ne _ _ _ _ ne, Word.get_parts]
      · rw [Word.value, parts, Word.pack_set]
        rfl

/-- Two different groups can be set in either order: every part is that given to its group,
or else the old one.
-/
theorem run_comm_of_sets? {first second : Step} {group other : WordGroup}
    {value value' : UInt16} (sets : first.sets? = some (group, value))
    (sets' : second.sets? = some (other, value')) (ne : group ≠ other) (fits : first.Fits)
    (fits' : second.Fits)
    : registers.run [first, second] = registers.run [second, first] := by
  have left := registers.sets_step sets fits
  have right := registers.sets_step sets' fits'
  have leftRight := (registers.step first).1.sets_step sets' fits'
  have rightLeft := (registers.step second).1.sets_step sets fits
  refine eq_of_current_of_saved (Word.eq_of_part_eq fun third => ?_) ?_
  · by_cases isFirst : third = group
    · subst isFirst
      exact (leftRight.others _ ne).trans (left.part.trans rightLeft.part.symm)
    by_cases isSecond : third = other
    · subst isSecond
      exact leftRight.part.trans (right.part.symm.trans (rightLeft.others _ isFirst).symm)
    have leftKept := (leftRight.others _ isSecond).trans (left.others _ isFirst)
    have rightKept := (rightLeft.others _ isFirst).trans (right.others _ isSecond)
    exact leftKept.trans rightKept.symm
  · exact (leftRight.saved.trans left.saved).trans (rightLeft.saved.trans right.saved).symm

theorem lawful : registers.Lawful where
  current := Word.consistent _
  saved := Word.consistent _
  refused_iff := refused_iff _
  unchanged _ _ := step_of_refused _
  makes _ := makes_step _
  sets _ _ _ := sets_step _
  commute _ _ _ _ _ _ := run_comm_of_sets? _
  reads _ := rfl
  keeps := rfl
  exchanges := rfl
  keepsSaved _ := saved_step _

-----------------------------------------------------------------------------------------
-- Runs
-----------------------------------------------------------------------------------------

theorem run_append (steps later : List Step)
    : registers.run (steps ++ later) = (registers.run steps).run later := by
  induction steps generalizing registers with
  | nil => rfl
  | cons step rest ih => exact ih _

/-- The saved word stays through any steps that neither keep a word nor exchange the two, by
induction over the steps.
-/
theorem saved_run {steps : List Step} (h : ∀ step ∈ steps, step ≠ .save ∧ step ≠ .swap)
    : (registers.run steps).saved = registers.saved := by
  induction steps generalizing registers with
  | nil => rfl
  | cons step rest ih =>
      have ⟨save, swap⟩ := h step List.mem_cons_self
      rw [run, ih _ fun later mem => h later (List.mem_cons_of_mem step mem)]
      exact registers.saved_step save swap

/-- Steps that are refused can be left out of a run, by induction over the steps. -/
theorem run_filter_fits (steps : List Step)
    : registers.run (steps.filter fun step => step.Fits) = registers.run steps := by
  induction steps generalizing registers with
  | nil => rfl
  | cons step rest ih =>
      by_cases fits : step.Fits
      · rw [List.filter_cons_of_pos (by simp [fits]), run, ih, run]
      · obtain ⟨error, refusal⟩ := (registers.refused_iff step).mpr fits
        rw [List.filter_cons_of_neg (by simp [fits]), ih, run, registers.step_of_refused refusal]

/-- Of the steps of a run those are refused that do not fit, by induction over the steps. -/
theorem forall₂_replies (steps : List Step)
    : List.Forall₂ (fun step reply => (∃ error, reply = .refused error) ↔ ¬ step.Fits)
        steps (registers.replies steps) := by
  induction steps generalizing registers with
  | nil => exact .nil
  | cons step rest ih => exact .cons (registers.refused_iff step) (ih _)

/-- However two registers of zeros are used, both words stay within their bounds and say the
same by groups and by value, the steps that were refused have changed nothing, and the next
step goes by its rule.
-/
theorem lawful_run (steps : List Step) : LawfulRun steps where
  ends := lawful _
  refused := forall₂_replies _ steps
  withoutRefused := run_filter_fits _ steps
  keepsSaved later := by
    rw [run_append]
    exact saved_run _

end Registers

end CardListing
