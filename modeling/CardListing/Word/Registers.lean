import CardListing.Word.Basic

/-!
Two word registers, one to work on and one to keep a copy in, and the steps that change
them. A step that is refused changes nothing.
-/

namespace CardListing

/-- The word worked on and the word kept aside. -/
structure Registers where
  current : Word := Word.zero
  saved : Word := Word.zero
deriving DecidableEq, Repr

namespace Registers

/-- What can be done with the registers. -/
inductive Step where
  /-- Make the current word from its parts. -/
  | ofParts (parts : WordGroups UInt16)
  /-- Make the current word from its value. -/
  | ofValue (value : UInt64)
  /-- Give the current word another value. -/
  | setValue (value : UInt64)
  /-- Give the command group of the current word another part. -/
  | setCommand (value : UInt16)
  /-- Give the first address group of the current word another part. -/
  | setA (value : UInt16)
  /-- Give the second address group of the current word another part. -/
  | setB (value : UInt16)
  /-- Give the third address group of the current word another part. -/
  | setC (value : UInt16)
  /-- Give any group of the current word another part. -/
  | setPart (group : WordGroup) (value : UInt16)
  /-- Read one group of the current word. -/
  | part (group : WordGroup)
  /-- Keep the current word. -/
  | save
  /-- Exchange the two words. -/
  | swap
deriving DecidableEq, Repr

/-- What a step answers. -/
inductive Reply where
  | done
  | read (value : UInt16)
  | refused (error : Word.Refusal)
deriving DecidableEq, Repr

/-- Takes a new current word, unless it is refused. -/
def replace (registers : Registers) : Except Word.Refusal Word → Registers × Reply
  | .ok word => ({ registers with current := word }, .done)
  | .error error => (registers, .refused error)

def step (registers : Registers) : Step → Registers × Reply
  | .ofParts parts => registers.replace (Word.ofParts parts)
  | .ofValue value => registers.replace (Word.ofValue value)
  | .setValue value => registers.replace (registers.current.setValue value)
  | .setCommand value => registers.replace (registers.current.setCommand value)
  | .setA value => registers.replace (registers.current.setA value)
  | .setB value => registers.replace (registers.current.setB value)
  | .setC value => registers.replace (registers.current.setC value)
  | .setPart group value => registers.replace (registers.current.setPart group value)
  | .part group => (registers, .read (registers.current.part group))
  | .save => ({ registers with saved := registers.current }, .done)
  | .swap => ({ current := registers.saved, saved := registers.current }, .done)

def run (registers : Registers) : List Step → Registers
  | [] => registers
  | step :: rest => (registers.step step).1.run rest

/-- What the steps of a run answer. -/
def replies (registers : Registers) : List Step → List Reply
  | [] => []
  | step :: rest => (registers.step step).2 :: (registers.step step).1.replies rest

end Registers

end CardListing
