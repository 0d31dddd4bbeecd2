import CardListing.Deck.Builder

/-!
Reading a deck on demand. A feed asks its source for a line only when it has no completed
entry left to hand out, and never again once the source has had nothing to give.
-/

namespace CardListing

/-- A reader of entries over a source of lines. -/
structure Feed where
  /-- What the source will answer to the next requests: a line, or that it has none.
  After these it has none. -/
  source : List (Option Text)
  /-- The number of requests made so far. -/
  asked : Nat := 0
  /-- Entries completed by the last line and not handed out yet. -/
  pending : Completion := {}
  /-- The grouping of the lines read so far, until the source was found exhausted. -/
  builder : Option Builder := some {}
deriving DecidableEq, Repr

namespace Feed

/-- A feed over the given lines. -/
def ofLines (lines : List Text) : Feed := { source := lines.map some }

/-- Asks for lines until one completes an entry or there is none. -/
def refill (asked : Nat) (builder : Builder) : List (Option Text) → Option Entry × Feed
  | [] => (builder.finish, { source := [], asked := asked + 1, builder := none })
  | none :: later =>
    (builder.finish, { source := later, asked := asked + 1, builder := none })
  | some line :: later =>
    let (next, emission) := builder.push line
    match emission.toCompletion.next with
    | (none, _) => refill (asked + 1) next later
    | (some entry, pending) =>
      (some entry, { source := later, asked := asked + 1, pending, builder := some next })

/-- Hands out the next entry, if there is one. -/
def next (feed : Feed) : Option Entry × Feed :=
  match feed.pending.next, feed.builder with
  | (some entry, pending), _ => (some entry, { feed with pending })
  | (none, _), none => (none, feed)
  | (none, _), some builder => refill feed.asked builder feed.source

/-- The feed after a number of calls of `next`. -/
def afterPulls (feed : Feed) : Nat → Feed
  | 0 => feed
  | n + 1 => (feed.afterPulls n).next.2

/-- How looking for an entry goes: the source stops or has nothing, a line that completes
nothing is passed over, or a line completes entries, of which all but the first are kept. -/
inductive Refills : Nat → Builder → List (Option Text) → Option Entry × Feed → Prop
  | stopped {asked builder}
    : Refills asked builder []
        (builder.finish, { source := [], asked := asked + 1, builder := none })
  | exhausted {asked builder later}
    : Refills asked builder (none :: later)
        (builder.finish, { source := later, asked := asked + 1, builder := none })
  | passed {asked builder line later answer} (quiet : (builder.push line).2.entries = [])
    (rest : Refills (asked + 1) (builder.push line).1 later answer)
    : Refills asked builder (some line :: later) answer
  | found {asked builder line later entry pending}
    (completed : (builder.push line).2.entries = entry :: pending.entries)
    : Refills asked builder (some line :: later)
        (some entry,
          { source := later, asked := asked + 1, pending,
            builder := some (builder.push line).1 })

/-- How a call of `next` goes: it hands out a kept entry, does nothing any more, or looks for
an entry. -/
inductive Answers (feed : Feed) : Option Entry × Feed → Prop
  | kept {entry pending} (held : feed.pending.entries = entry :: pending.entries)
    : Answers feed (some entry, { feed with pending })
  | idle (empty : feed.pending.entries = []) (ended : feed.builder = none)
    : Answers feed (none, feed)
  | asked {builder answer} (empty : feed.pending.entries = [])
    (running : feed.builder = some builder)
    (refills : Refills feed.asked builder feed.source answer)
    : Answers feed answer

theorem refills_refill (asked : Nat) (builder : Builder) (source : List (Option Text))
    : Refills asked builder source (refill asked builder source) := by
  induction source generalizing asked builder with
  | nil => exact .stopped
  | cons answer later ih =>
      cases answer with
      | none => exact .exhausted
      | some line =>
          rcases hn : (builder.push line).2.toCompletion.next with ⟨_ | entry, pending⟩
          · simp only [refill, hn]
            exact .passed (Completion.entries_of_next_none hn) (ih _ _)
          · simp only [refill, hn]
            exact .found (Completion.entries_of_next_some hn)

theorem answers_next (feed : Feed) : Answers feed feed.next := by
  rcases hn : feed.pending.next with ⟨_ | entry, pending⟩
  · have empty := Completion.entries_of_next_none hn
    cases hb : feed.builder with
    | none =>
        simp only [next, hn, hb]
        exact .idle empty hb
    | some builder =>
        simp only [next, hn, hb]
        exact .asked empty hb (refills_refill _ _ _)
  · simp only [next, hn]
    exact .kept (Completion.entries_of_next_some hn)

/-- A bound on the calls of `next` that still hand out an entry: a line completes two at
most, and the end of the source one. -/
def entriesLeft (feed : Feed) : Nat :=
  2 * feed.source.length + feed.pending.entries.length + if feed.builder.isSome then 1 else 0

/-- Looking for an entry uses the bound up, by induction on how it goes. -/
theorem Refills.entriesLeft_lt {asked : Nat} {builder : Builder}
    {source : List (Option Text)} {answer : Option Entry × Feed}
    (h : Refills asked builder source answer)
    : answer.2.entriesLeft < 2 * source.length + 1 := by
  induction h with
  | stopped => exact Nat.zero_lt_one
  | @exhausted _ _ later =>
      have spent : 2 * later.length < 2 * (later.length + 1) + 1 := by omega
      exact spent
  | @passed _ _ _ later _ _ _ ih =>
      rw [List.length_cons]
      omega
  | @found _ builder line later entry pending completed =>
      have few : (builder.push line).2.entries.length ≤ 2 :=
        (builder.push line).2.length_entries_le
      rw [completed, List.length_cons] at few
      simp only [entriesLeft, Option.isSome_some, if_true, List.length_cons]
      omega

/-- A call that hands out an entry leaves fewer to be handed out. -/
theorem Answers.entriesLeft_lt {feed rest : Feed} {entry : Entry}
    (h : Answers feed (some entry, rest))
    : rest.entriesLeft < feed.entriesLeft := by
  cases h with
  | kept held =>
      simp only [entriesLeft, held, List.length_cons]
      omega
  | asked empty running refills =>
      have bound := refills.entriesLeft_lt
      have all : feed.entriesLeft = 2 * feed.source.length + 1 := by
        simp [entriesLeft, empty, running]
      rwa [all]

/-- All entries that calls of `next` hand out until the first that hands out none. -/
def collect (feed : Feed) : List Entry :=
  match _h : feed.next with
  | (some entry, rest) => entry :: rest.collect
  | (none, _) => []
termination_by feed.entriesLeft
decreasing_by exact (‹feed.next = _› ▸ answers_next feed).entriesLeft_lt

end Feed

end CardListing
