import CardListing.Word.Group

/-!
Machine words of 48 bits. A word is held as its four groups and its value is derived from
them, so the two can never disagree. A group holds a number together with the fact that it
fits, so a word can only be made or changed by a check that a number fits or by reading a
group of a value.
-/

namespace CardListing

def wordBits : Nat := 48

def wordMax : UInt64 := lowOnes wordBits

def groupMax : UInt16 := 4095

/-- A number that fits in a group of a word. -/
abbrev GroupValue := { value : UInt16 // value ≤ groupMax }

structure Word where
  groups : WordGroups GroupValue
deriving DecidableEq, Repr

/-- Why a number is refused. -/
inductive Word.Refusal where
  /-- The value of a group needs more than 12 bits. -/
  | groupTooWide (group : WordGroup) (value : UInt16)
  /-- The value of a word needs more than 48 bits. -/
  | valueTooLarge (value : UInt64)
deriving DecidableEq, Repr

def Word.Refusal.message : Word.Refusal → String
  | groupTooWide group value =>
    group.title ++ " field value " ++ toString value.toNat ++ " does not fit in 12 bits"
  | valueTooLarge value =>
    "word value " ++ toString value.toNat ++ " does not fit in 48 bits"

namespace Word

/-- The groups written one after the other into a word of zeros. Of every number only the
lowest 12 bits are used. -/
def pack (parts : WordGroups UInt16) : UInt64 :=
  WordGroup.all.foldl
    (fun word group => group.bits.set word wordBits (parts.get group).toUInt64) 0

/-- The groups read from the lowest 48 bits of a number. -/
def unpack (value : UInt64) : WordGroups UInt16 :=
  .ofFn fun group => (group.bits.get value wordBits).toUInt16

/-- What is read from a group fits in a group. -/
theorem get_unpack_le (value : UInt64) (group : WordGroup)
    : (unpack value).get group ≤ groupMax := by
  have masked : (group.bits.get value wordBits).toNat ≤ 4095 := by
    rw [BitSpan.get, UInt64.toNat_and, ← group.toNat_maxValue_bits]
    exact Nat.and_le_right
  rw [unpack, WordGroups.get_ofFn, UInt16.le_iff_toNat_le, UInt64.toNat_toUInt16]
  exact Nat.le_trans (Nat.mod_le _ _) masked

/-- A number that fits in the bits of a group is at most the largest that does. -/
theorem le_groupMax_of_fits {group : WordGroup} {value : UInt16}
    (h : group.bits.fits value.toUInt64 = true)
    : value ≤ groupMax := by
  have bound := UInt64.le_iff_toNat_le.mp (of_decide_eq_true h)
  rw [group.toNat_maxValue_bits, UInt16.toNat_toUInt64] at bound
  exact UInt16.le_iff_toNat_le.mpr bound

def zero : Word := ⟨.ofFn fun _ => ⟨0, by decide⟩⟩

/-- The part of the word in a group. -/
def part (word : Word) (group : WordGroup) : UInt16 := (word.groups.get group).val

def command (word : Word) : UInt16 := word.part .command

def a (word : Word) : UInt16 := word.part .a

def b (word : Word) : UInt16 := word.part .b

def c (word : Word) : UInt16 := word.part .c

def parts (word : Word) : WordGroups UInt16 := .ofFn word.part

def value (word : Word) : UInt64 := pack word.parts

/-- The value for a group, if it fits. -/
def check (group : WordGroup) (value : UInt16) : Except Word.Refusal GroupValue :=
  if h : group.bits.fits value.toUInt64 then
    .ok ⟨value, le_groupMax_of_fits h⟩
  else
    .error (.groupTooWide group value)

/-- The word with the given groups. The first group that does not fit is refused, in the
order of the groups. -/
def ofParts (parts : WordGroups UInt16) : Except Word.Refusal Word := do
  let command ← check .command parts.command
  let a ← check .a parts.a
  let b ← check .b parts.b
  let c ← check .c parts.c
  return ⟨⟨command, a, b, c⟩⟩

/-- The word with another value, if that fits; nothing is left of the word as it was. -/
def setValue (_word : Word) (value : UInt64) : Except Word.Refusal Word :=
  if value ≤ wordMax then
    .ok ⟨.ofFn fun group => ⟨(unpack value).get group, get_unpack_le value group⟩⟩
  else
    .error (.valueTooLarge value)

/-- The word with the given value, if it fits. -/
def ofValue (value : UInt64) : Except Word.Refusal Word := zero.setValue value

/-- The word with one group replaced, if the value fits. -/
def setPart (word : Word) (group : WordGroup) (value : UInt16)
    : Except Refusal Word := do
  let checked ← check group value
  return ⟨word.groups.set group checked⟩

def setCommand (word : Word) : UInt16 → Except Refusal Word := word.setPart .command

def setA (word : Word) : UInt16 → Except Refusal Word := word.setPart .a

def setB (word : Word) : UInt16 → Except Refusal Word := word.setPart .b

def setC (word : Word) : UInt16 → Except Refusal Word := word.setPart .c

/-- Words are the same if their parts are. -/
theorem eq_of_part_eq {x y : Word} (h : ∀ group, x.part group = y.part group) : x = y := by
  cases x
  cases y
  exact congrArg Word.mk (WordGroups.ext_get _ _ fun group => Subtype.ext (h group))

end Word

end CardListing
