import CardListing.BitSpan

/-!
The four groups of a machine word. A word of 48 bits has a command group and three address
groups of 12 bits each, the command group in the most significant bits.
-/

namespace CardListing

inductive WordGroup where
  | command
  | a
  | b
  | c
deriving DecidableEq, Repr

namespace WordGroup

/-- All groups, most significant first. -/
def all : List WordGroup := [command, a, b, c]

def name : WordGroup → String
  | command => "command"
  | a => "a"
  | b => "b"
  | c => "c"

/-- The group as it is called in messages. -/
def title : WordGroup → String
  | command => "command"
  | a => "A address"
  | b => "B address"
  | c => "C address"

def ofName? (name : String) : Option WordGroup := all.find? fun group => group.name = name

/-- The bits of the group. -/
def bits : WordGroup → BitSpan
  | command => { first := 1, last := 12 }
  | a => { first := 13, last := 24 }
  | b => { first := 25, last := 36 }
  | c => { first := 37, last := 48 }

theorem toNat_maxValue_bits (group : WordGroup) : group.bits.maxValue.toNat = 4095 := by
  cases group <;> rfl

theorem mem_all (group : WordGroup) : group ∈ all := by cases group <;> decide

/-- A group is found again by its name. -/
theorem ofName?_name (group : WordGroup) : ofName? group.name = some group := by
  cases group <;> decide

end WordGroup

/-- One value for each group. -/
structure WordGroups (α : Type) where
  command : α
  a : α
  b : α
  c : α
deriving DecidableEq, Repr

namespace WordGroups

variable {α β : Type}

def ofFn (f : WordGroup → α) : WordGroups α := ⟨f .command, f .a, f .b, f .c⟩

def get (values : WordGroups α) : WordGroup → α
  | .command => values.command
  | .a => values.a
  | .b => values.b
  | .c => values.c

/-- The values with that of one group replaced. -/
def set (values : WordGroups α) (group : WordGroup) (value : α) : WordGroups α :=
  ofFn fun other => if other = group then value else values.get other

/-- The values after applying a function to each. -/
def map (f : α → β) (values : WordGroups α) : WordGroups β :=
  ofFn fun group => f (values.get group)

/-- The values, most significant first. -/
def toList (values : WordGroups α) : List α := WordGroup.all.map values.get

@[simp] theorem get_ofFn (f : WordGroup → α) (group : WordGroup)
    : (ofFn f).get group = f group := by
  cases group <;> rfl

@[simp] theorem ofFn_get (values : WordGroups α) : ofFn values.get = values := rfl

/-- Values are the same if they are the same for every group. -/
theorem ext_get (x y : WordGroups α) (h : ∀ group, x.get group = y.get group)
    : x = y := by
  rw [← ofFn_get x, ← ofFn_get y, funext h]

@[simp] theorem get_map (f : α → β) (values : WordGroups α) (group : WordGroup)
    : (values.map f).get group = f (values.get group) := by
  simp [map]

@[simp] theorem get_set_self (values : WordGroups α) (group : WordGroup) (value : α)
    : (values.set group value).get group = value := by
  simp [set]

/-- Replacing the value of a group leaves those of the others. -/
theorem get_set_of_ne (values : WordGroups α) (group other : WordGroup) (value : α)
    (h : other ≠ group)
    : (values.set group value).get other = values.get other := by
  simp [set, h]

/-- The values of two groups can be replaced in either order. -/
theorem set_comm (values : WordGroups α) {group other : WordGroup} (value value' : α)
    (h : group ≠ other)
    : (values.set group value).set other value' = (values.set other value').set group value := by
  refine ext_get _ _ fun third => ?_
  simp only [set, get_ofFn]
  by_cases first : third = other <;> by_cases second : third = group <;> grind

end WordGroups

end CardListing
