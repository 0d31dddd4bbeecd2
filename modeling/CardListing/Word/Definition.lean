import CardListing.Word.Basic

/-!
Words as they are written down. A definition names the number of every group; numbers that
do not fit are only noticed when the definition is made a word.
-/

namespace CardListing

/-- The four groups of a word by name. -/
structure WordDefinition where
  command : UInt16
  a : UInt16
  b : UInt16
  c : UInt16
deriving DecidableEq, Repr

namespace WordDefinition

def ofWord (word : Word) : WordDefinition where
  command := word.command
  a := word.a
  b := word.b
  c := word.c

def ofGroups (given : WordGroups UInt16) : WordDefinition where
  command := given.command
  a := given.a
  b := given.b
  c := given.c

def groups (definition : WordDefinition) : WordGroups UInt16 where
  command := definition.command
  a := definition.a
  b := definition.b
  c := definition.c

end WordDefinition

/-- The word with the groups of a definition. The first one that does not fit is refused, in
the order of the groups. -/
def Word.ofDefinition (definition : WordDefinition) : Except Word.Refusal Word :=
  ofParts definition.groups

end CardListing
