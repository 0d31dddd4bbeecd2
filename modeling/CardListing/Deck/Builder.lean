import CardListing.Deck.Entry

/-!
Grouping a listing line by line. The builder remembers the statement that may still be
continued and the number of lines it has seen; every line may complete entries and
report events.
-/

namespace CardListing

/-- The state between two lines. -/
structure Builder where
  /-- The statement that the next unnumbered lines continue, if one has been started and
  no later numbered line or directive has ended it. -/
  current : Option Statement := none
  /-- The number of lines read so far, blank lines and comments included. -/
  lineCount : Nat := 0
deriving DecidableEq, Repr

/-- The entries that one line completes, as far as they have not been taken out: at most
the statement that the line has ended and the directive that it is. -/
structure Completion where
  closed : Option Statement := none
  directive : Option Directive := none
deriving DecidableEq, Repr

namespace Completion

/-- The entries in order: the ended statement comes before the directive that ended it. -/
def entries (completion : Completion) : List Entry :=
  (completion.closed.map Entry.statement).toList
    ++ (completion.directive.map Entry.directive).toList

/-- Takes out the first entry, if there is one. -/
def next (completion : Completion) : Option Entry × Completion :=
  match completion.closed, completion.directive with
  | some s, _ => (some (.statement s), { completion with closed := none })
  | none, some d => (some (.directive d), { completion with directive := none })
  | none, none => (none, completion)

theorem entries_of_next_none {completion rest : Completion}
    (h : completion.next = (none, rest))
    : completion.entries = [] := by
  rcases completion with ⟨_ | s, _ | d⟩
  · rfl
  all_goals cases h

theorem entries_of_next_some {completion rest : Completion} {entry : Entry}
    (h : completion.next = (some entry, rest))
    : completion.entries = entry :: rest.entries := by
  rcases completion with ⟨_ | s, _ | d⟩ <;> cases h <;> rfl

theorem length_entries_le (completion : Completion) : completion.entries.length ≤ 2 := by
  rcases completion with ⟨_ | s, _ | d⟩ <;> simp [entries]

end Completion

/-- What one line brings about. -/
structure Emission extends Completion where
  events : List Event := []
deriving DecidableEq, Repr

def Emission.entries (emission : Emission) : List Entry := emission.toCompletion.entries

namespace Builder

def isOpen (builder : Builder) : Bool := builder.current.isSome

/-- Takes in a line as it has been read. -/
def step (builder : Builder) (reading : Reading) : Builder × Emission :=
  let number := builder.lineCount + 1
  match reading with
  | .blank | .comment => ({ builder with lineCount := number }, {})
  | .directive d =>
    ({ lineCount := number },
      { closed := builder.current, directive := some d, events := [.directive number d.kind] })
  | .numbered record =>
    ({ current := some ⟨record, []⟩, lineCount := number }, { closed := builder.current })
  | .unnumbered row =>
    match builder.current, row.isEmpty with
    | some statement, false =>
      ({ current := some (statement.extend [row]), lineCount := number }, {})
    | _, _ => ({ builder with lineCount := number }, { events := [.unattached number] })

/-- Takes in the next line. What reading the line reports comes before what grouping it
reports. -/
def push (builder : Builder) (line : Text) : Builder × Emission :=
  let (next, emission) := builder.step (Reading.ofLine line)
  (next, { emission with events := (notice? line).toList ++ emission.events })

/-- Ends the listing: the statement still open is complete now. -/
def finish (builder : Builder) : Option Entry := builder.current.map Entry.statement

/-- The entries completed by the lines and the end of the listing. -/
def drain (builder : Builder) : List Text → List Entry
  | [] => builder.finish.toList
  | line :: rest =>
    let (next, emission) := builder.push line
    emission.entries ++ next.drain rest

/-- The builder after the lines. -/
def run (builder : Builder) : List Text → Builder
  | [] => builder
  | line :: rest => (builder.push line).1.run rest

/-- What each of the lines brings about, in order. -/
def emissions (builder : Builder) : List Text → List Emission
  | [] => []
  | line :: rest =>
    let (next, emission) := builder.push line
    emission :: next.emissions rest

/-- Draining gathers the emissions and then finishes, by list induction. -/
theorem drain_eq (builder : Builder) (lines : List Text)
    : builder.drain lines
      = (builder.emissions lines).flatMap Emission.entries
        ++ (builder.run lines).finish.toList := by
  induction lines generalizing builder with
  | nil => rfl
  | cons line rest ih => simp [drain, emissions, run, ih, List.append_assoc]

end Builder

end CardListing
