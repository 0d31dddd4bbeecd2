import CardListing.Deck.Feed
import CardListing.Proofs.Deck.BuilderSegments
import Mathlib.Data.List.Chain

/-! What a feed still has to hand out, each entry with the number of requests at which it is
due. Every call of `next` takes the first of them, so a feed hands out the entries of the
deck in order and asks its source no earlier than each of them needs.
-/

namespace CardListing

namespace Builder

/-- The number of the line that completed each entry of the emissions, counted from `first`.
-/
def completionLines (builder : Builder) (first : Nat) (lines : List Text) : List Nat :=
  ((builder.emissions lines).zipIdx first).flatMap fun (emission, number) =>
    emission.entries.map fun _ => number

/-- The entries drained, each with the requests made by then if `asked` were made before. -/
def schedule (builder : Builder) (asked : Nat) : List Text → List (Entry × Nat)
  | [] => builder.finish.toList.map fun entry => (entry, asked + 1)
  | line :: rest =>
    (builder.push line).2.entries.map (fun entry => (entry, asked + 1))
      ++ (builder.push line).1.schedule (asked + 1) rest

/-- Forgetting the requests leaves what is drained, by list induction. -/
theorem map_fst_schedule (builder : Builder) (asked : Nat) (lines : List Text)
    : (builder.schedule asked lines).map Prod.fst = builder.drain lines := by
  induction lines generalizing builder asked with
  | nil => simp [schedule, drain, Function.comp_def]
  | cons line rest ih => simp [schedule, drain, ih, Function.comp_def]

/-- Requests are due as lines complete entries; the entry of the end is due last. -/
theorem map_snd_schedule (builder : Builder) (asked : Nat) (lines : List Text)
    : (builder.schedule asked lines).map Prod.snd
      = builder.completionLines (asked + 1) lines
        ++ (builder.run lines).finish.toList.map fun _ => asked + lines.length + 1 := by
  induction lines generalizing builder asked with
  | nil => simp [schedule, completionLines, emissions, run, Function.comp_def]
  | cons line rest ih =>
      have later : asked + 1 + rest.length + 1 = asked + (rest.length + 1) + 1 := by omega
      simp [schedule, ih, completionLines, emissions, run, later, Function.comp_def]

/-- What an open builder drains first is a statement. -/
theorem head?_schedule_of_isOpen {builder : Builder} (h : builder.isOpen = true) (asked : Nat)
    (lines : List Text)
    : ∃ s due, (builder.schedule asked lines).head? = some (.statement s, due) := by
  obtain ⟨s, hs⟩ := Option.isSome_iff_exists.mp h
  have first : ((builder.schedule asked lines).map Prod.fst).head?
      = some (.statement (s.extend (Deck.leadRows lines))) := by
    rw [map_fst_schedule, drain_eq_segments, hs]
    rfl
  rw [List.head?_map, Option.map_eq_some_iff] at first
  obtain ⟨⟨entry, due⟩, found, rfl⟩ := first
  exact ⟨_, due, found⟩

/-- If a statement is followed by a directive, both are due at the same request. -/
def DueTogether (first second : Entry × Nat) : Prop :=
  ∀ s d, first.1 = .statement s → second.1 = .directive d → first.2 = second.2

/-- A statement and the directive right after it are due together, by list induction: one
line completed both, as a numbered line would have put its own statement in between.
-/
theorem isChain_schedule (builder : Builder) (asked : Nat) (lines : List Text)
    : (builder.schedule asked lines).IsChain DueTogether := by
  induction lines generalizing builder asked with
  | nil => cases hc : builder.current <;> simp [schedule, finish, hc]
  | cons line rest ih =>
      refine List.IsChain.append ?_ (ih _ _) ?_
      · refine (List.pairwise_map.mpr ?_).isChain
        exact List.pairwise_of_forall fun _ _ _ _ _ _ => rfl
      · intro x hx y hy s d hs hd
        have last : (builder.push line).2.entries.getLast? = some (.statement s) := by
          rw [Option.mem_def, List.getLast?_map, Option.map_eq_some_iff] at hx
          obtain ⟨entry, hl, rfl⟩ := hx
          rw [hl, ← hs]
        have opened : (builder.push line).1.isOpen = true := isOpen_step_of_getLast? last
        obtain ⟨next, due, first⟩ := head?_schedule_of_isOpen opened (asked + 1) rest
        rw [Option.mem_def, first] at hy
        cases hy
        cases hd

end Builder

namespace Feed

/-- The lines that a source gives until it first has none. -/
def given : List (Option Text) → List Text
  | some line :: later => line :: given later
  | _ => []

/-- A source of the given lines. It stops there, or it has none once and then answers the
requests that are made all the same.
-/
def sourceOf (lines : List Text) : Option (List (Option Text)) → List (Option Text)
  | none => lines.map some
  | some later => lines.map some ++ none :: later

@[simp] theorem given_sourceOf (lines : List Text) (later : Option (List (Option Text)))
    : given (sourceOf lines later) = lines := by
  induction lines with
  | nil => cases later <;> rfl
  | cons line rest ih => cases later <;> exact congrArg (line :: ·) ih

/-- What is still to be handed out: what has been completed already, and what the builder
makes of the lines to come.
-/
def schedule (feed : Feed) : List (Entry × Nat) :=
  feed.pending.entries.map (fun entry => (entry, feed.asked))
    ++ match feed.builder with
      | none => []
      | some builder => builder.schedule feed.asked (given feed.source)

/-- The number of requests that will have been made once nothing is left. -/
def requests (feed : Feed) : Nat :=
  match feed.builder with
  | none => feed.asked
  | some _ => feed.asked + (given feed.source).length + 1

/-- An answer hands out the first of the scheduled entries when it is due, and leaves the
others to its feed. Without any it makes all requests that remain.
-/
structure Serves (schedule : List (Entry × Nat)) (requests : Nat)
    (answer : Option Entry × Feed)
    : Prop where
  entry : answer.1 = schedule.head?.map Prod.fst
  rest : answer.2.schedule = schedule.tail
  asked : answer.2.asked = (schedule.head?.map Prod.snd).getD requests
  requests : answer.2.requests = requests

/-- At the end of the source the statement still open is due. -/
theorem serves_finish (asked : Nat) (builder : Builder) (later : List (Option Text))
    : Serves (builder.schedule asked []) (asked + 1)
        (builder.finish, { source := later, asked := asked + 1, builder := none }) := by
  cases hc : builder.current <;> constructor <;>
    simp [Builder.schedule, Builder.finish, hc, schedule, requests, Completion.entries]

/-- Looking for an entry serves the schedule of the builder, by induction on how it goes: a
line that completes nothing has no part in the schedule.
-/
theorem Refills.serves {asked : Nat} {builder : Builder} {source : List (Option Text)}
    {answer : Option Entry × Feed} (h : Refills asked builder source answer)
    : Serves (builder.schedule asked (given source)) (asked + (given source).length + 1)
        answer := by
  induction h with
  | stopped => exact serves_finish _ _ []
  | exhausted => exact serves_finish _ _ _
  | @passed asked builder line later answer quiet _ ih =>
      have due : builder.schedule asked (given (some line :: later))
          = (builder.push line).1.schedule (asked + 1) (given later) := by
        rw [given, Builder.schedule, quiet]
        rfl
      have all : asked + (given (some line :: later)).length + 1
          = asked + 1 + (given later).length + 1 := by
        rw [given, List.length_cons]
        omega
      rw [due, all]
      exact ih
  | @found asked builder line later entry pending completed =>
      have due : builder.schedule asked (given (some line :: later))
          = (entry, asked + 1)
            :: (pending.entries.map (fun entry => (entry, asked + 1))
              ++ (builder.push line).1.schedule (asked + 1) (given later)) := by
        rw [given, Builder.schedule, completed]
        rfl
      rw [due]
      refine ⟨rfl, rfl, rfl, ?_⟩
      rw [given, List.length_cons]
      simp only [requests]
      omega

theorem Answers.serves {feed : Feed} {answer : Option Entry × Feed}
    (h : Answers feed answer)
    : Serves feed.schedule feed.requests answer := by
  cases h with
  | kept held => constructor <;> simp [schedule, requests, held]
  | idle empty ended => constructor <;> simp [schedule, requests, empty, ended]
  | @asked builder _ empty running refills =>
      have due : feed.schedule = builder.schedule feed.asked (given feed.source) := by
        simp [schedule, empty, running]
      have all : feed.requests = feed.asked + (given feed.source).length + 1 := by
        simp [requests, running]
      rw [due, all]
      exact refills.serves

/-- Every call of `next` serves the schedule of its feed. -/
theorem serves_next (feed : Feed) : Serves feed.schedule feed.requests feed.next :=
  (answers_next feed).serves

-----------------------------------------------------------------------------------------
-- Any number of calls
-----------------------------------------------------------------------------------------

theorem schedule_afterPulls (feed : Feed) (k : Nat)
    : (feed.afterPulls k).schedule = feed.schedule.drop k := by
  induction k with
  | zero => rfl
  | succ k ih => rw [afterPulls, (serves_next _).rest, ih, List.tail_drop]

theorem requests_afterPulls (feed : Feed) (k : Nat)
    : (feed.afterPulls k).requests = feed.requests := by
  induction k with
  | zero => rfl
  | succ k ih => rw [afterPulls, (serves_next _).requests, ih]

/-- The call after `k` others hands out what the schedule has at `k`. -/
theorem next_afterPulls (feed : Feed) (k : Nat)
    : (feed.afterPulls k).next.1 = (feed.schedule.map Prod.fst)[k]? := by
  rw [(serves_next _).entry, schedule_afterPulls, List.head?_drop, List.getElem?_map]

/-- After that call the requests made are those due there. -/
theorem asked_afterPulls_succ (feed : Feed) (k : Nat)
    : (feed.afterPulls (k + 1)).asked = ((feed.schedule.map Prod.snd)[k]?).getD feed.requests := by
  rw [afterPulls, (serves_next _).asked, schedule_afterPulls, requests_afterPulls,
    List.head?_drop, List.getElem?_map]

/-- Where a statement and the directive after it are due together, the call that hands out
the directive makes no request.
-/
theorem asked_afterPulls_directive {feed : Feed}
    (chain : feed.schedule.IsChain Builder.DueTogether) {k : Nat} {s : Statement}
    {d : Directive} (first : (feed.schedule.map Prod.fst)[k]? = some (.statement s))
    (second : (feed.schedule.map Prod.fst)[k + 1]? = some (.directive d))
    : (feed.afterPulls (k + 2)).asked = (feed.afterPulls (k + 1)).asked := by
  rw [List.getElem?_map, Option.map_eq_some_iff] at first second
  obtain ⟨x, hx, hs⟩ := first
  obtain ⟨y, hy, hd⟩ := second
  obtain ⟨hk, rfl⟩ := List.getElem?_eq_some_iff.mp hy
  obtain ⟨_, rfl⟩ := List.getElem?_eq_some_iff.mp hx
  have together := (List.isChain_iff_getElem.mp chain) k hk s d hs hd
  rw [asked_afterPulls_succ, asked_afterPulls_succ, List.getElem?_map, List.getElem?_map, hx,
    hy]
  exact together.symm

/-- Collecting calls `next` until nothing is scheduled, so it gathers the whole schedule. -/
theorem collect_eq_map_schedule (feed : Feed) : feed.collect = feed.schedule.map Prod.fst := by
  fun_induction collect feed with
  | case1 feed entry rest answer ih =>
      have served := serves_next feed
      rw [answer] at served
      have found : some entry = feed.schedule.head?.map Prod.fst := served.entry
      have left : rest.schedule = feed.schedule.tail := served.rest
      cases hs : feed.schedule with
      | nil => simp [hs] at found
      | cons due later =>
          rw [hs] at found left
          cases found
          rw [ih, left]
          rfl
  | case2 feed rest answer =>
      have served := serves_next feed
      rw [answer] at served
      have found : none = feed.schedule.head?.map Prod.fst := served.entry
      cases hs : feed.schedule with
      | nil => rfl
      | cons due later => simp [hs] at found

-----------------------------------------------------------------------------------------
-- The source
-----------------------------------------------------------------------------------------

/-- Looking for an entry takes one answer of the source for every request. -/
theorem Refills.source_eq_drop {asked : Nat} {builder : Builder}
    {source : List (Option Text)} {answer : Option Entry × Feed}
    (h : Refills asked builder source answer)
    : ∃ n, answer.2.asked = asked + n ∧ answer.2.source = source.drop n := by
  induction h with
  | stopped | exhausted | found => exact ⟨1, rfl, rfl⟩
  | passed _ _ ih =>
      obtain ⟨n, more, left⟩ := ih
      exact ⟨n + 1, by omega, left⟩

theorem Answers.source_eq_drop {feed : Feed} {answer : Option Entry × Feed}
    (h : Answers feed answer)
    : ∃ n, answer.2.asked = feed.asked + n ∧ answer.2.source = feed.source.drop n := by
  cases h with
  | kept | idle => exact ⟨0, rfl, rfl⟩
  | asked _ _ refills => exact refills.source_eq_drop

/-- The requests made are the answers taken, by induction over the calls. -/
theorem source_afterPulls (source : List (Option Text)) (k : Nat)
    : (({ source } : Feed).afterPulls k).source
      = source.drop (({ source } : Feed).afterPulls k).asked := by
  induction k with
  | zero => rfl
  | succ k ih =>
      obtain ⟨n, more, left⟩ :=
        (answers_next (({ source } : Feed).afterPulls k)).source_eq_drop
      rw [afterPulls, left, more, ih, List.drop_drop]

/-- Once the source has been found exhausted, nothing is kept back. -/
def Consistent (feed : Feed) : Prop := feed.builder = none → feed.pending.entries = []

theorem Refills.consistent {asked : Nat} {builder : Builder}
    {source : List (Option Text)} {answer : Option Entry × Feed}
    (h : Refills asked builder source answer)
    : answer.2.Consistent := by
  induction h with
  | stopped | exhausted => exact fun _ => rfl
  | passed _ _ ih => exact ih
  | found =>
      intro ended
      cases ended

theorem Answers.consistent {feed : Feed} {answer : Option Entry × Feed}
    (h : Answers feed answer) (before : feed.Consistent)
    : answer.2.Consistent := by
  cases h with
  | kept held =>
      intro ended
      rw [before ended] at held
      cases held
  | idle => exact before
  | asked _ _ refills => exact refills.consistent

theorem Consistent.afterPulls {feed : Feed} (h : feed.Consistent) (k : Nat)
    : (feed.afterPulls k).Consistent := by
  induction k with
  | zero => exact h
  | succ k ih => exact (answers_next _).consistent ih

/-- A consistent feed that has made all its requests has nothing left to do. -/
theorem Answers.eq_of_asked {feed : Feed} {answer : Option Entry × Feed}
    (h : Answers feed answer) (before : feed.Consistent)
    (all : feed.asked = feed.requests)
    : answer = (none, feed) := by
  have ended : feed.builder = none := by
    cases hb : feed.builder with
    | none => rfl
    | some builder =>
        simp only [requests, hb] at all
        omega
  cases h with
  | kept held =>
      rw [before ended] at held
      cases held
  | idle => rfl
  | asked _ running =>
      rw [ended] at running
      cases running

theorem Consistent.afterPulls_add {feed : Feed} (h : feed.Consistent) (j k : Nat)
    (all : (feed.afterPulls j).asked = feed.requests)
    : feed.afterPulls (j + k) = feed.afterPulls j := by
  induction k with
  | zero => rfl
  | succ k ih =>
      have done : (feed.afterPulls j).asked = (feed.afterPulls j).requests :=
        all.trans (requests_afterPulls feed j).symm
      have idle := (answers_next (feed.afterPulls j)).eq_of_asked (h.afterPulls j) done
      rw [← Nat.add_assoc, Feed.afterPulls, ih, idle]

-----------------------------------------------------------------------------------------
-- A fresh feed
-----------------------------------------------------------------------------------------

theorem map_fst_schedule_fresh (source : List (Option Text))
    : ({ source } : Feed).schedule.map Prod.fst = (Deck.ofLines (given source)).entries :=
  Builder.map_fst_schedule {} 0 (given source)

/-- Past the entries that lines complete, one more request than there are lines is due. -/
theorem getD_map_snd_schedule_fresh (source : List (Option Text)) (k : Nat)
    : ((({ source } : Feed).schedule.map Prod.snd)[k]?).getD ((given source).length + 1)
      = (Builder.completionLines {} 1 (given source))[k]?.getD ((given source).length + 1) := by
  have dues : ({ source } : Feed).schedule.map Prod.snd
      = Builder.completionLines {} 1 (given source)
        ++ (Builder.run {} (given source)).finish.toList.map
          fun _ => 0 + (given source).length + 1 :=
    Builder.map_snd_schedule {} 0 (given source)
  rw [dues, List.getElem?_append]
  split
  · rfl
  · rename_i past
    rw [List.getElem?_eq_none (Nat.le_of_not_lt past)]
    cases (Builder.run {} (given source)).finish with
    | none => rfl
    | some entry =>
        cases k - (Builder.completionLines {} 1 (given source)).length <;> simp

/-- The entries of the builder's steps, of a feed that is collected, and of single calls of
`next` are those of the deck, whatever the source answers after it first has no line. Every
call makes just the requests that its entry needs; a directive needs none after the statement
that it closed, and an exhausted source is left alone.
-/
theorem pulls_eq_entries (lines : List Text) (later : Option (List (Option Text)))
    : let feed : Feed := { source := sourceOf lines later }
      let entries := (Deck.ofLines lines).entries
      (Builder.emissions {} lines).flatMap Emission.entries
          ++ (Builder.run {} lines).finish.toList
        = entries
      ∧ feed.collect = entries
      ∧ (∀ k, (feed.afterPulls k).next.1 = entries[k]?)
      ∧ (∀ k,
          (feed.afterPulls (k + 1)).asked
          = (Builder.completionLines {} 1 lines)[k]?.getD (lines.length + 1))
      ∧ (∀ k s d,
          entries[k]? = some (.statement s)
          → entries[k + 1]? = some (.directive d)
          → (feed.afterPulls (k + 2)).asked = (feed.afterPulls (k + 1)).asked)
      ∧ (∀ k, (feed.afterPulls k).source = feed.source.drop (feed.afterPulls k).asked)
      ∧ ∀ j k,
          (feed.afterPulls j).asked = lines.length + 1
          → feed.afterPulls (j + k) = feed.afterPulls j := by
  intro feed entries
  have lines_given : given feed.source = lines := given_sourceOf lines later
  have requests : feed.requests = lines.length + 1 := by
    simp [feed, Feed.requests]
  have handed : feed.schedule.map Prod.fst = entries := by
    rw [map_fst_schedule_fresh, lines_given]
  refine ⟨(Builder.drain_eq {} lines).symm, ?_, ?_, ?_, ?_, ?_, ?_⟩
  · rw [collect_eq_map_schedule, handed]
  · intro k
    rw [next_afterPulls, handed]
  · intro k
    have due := getD_map_snd_schedule_fresh feed.source k
    rw [lines_given] at due
    rw [asked_afterPulls_succ, requests]
    exact due
  · intro k s d first second
    have chain : feed.schedule.IsChain Builder.DueTogether :=
      Builder.isChain_schedule {} 0 (given feed.source)
    rw [← handed] at first second
    exact asked_afterPulls_directive chain first second
  · exact source_afterPulls feed.source
  · intro j k all
    have fresh : feed.Consistent := fun ended => by cases ended
    exact fresh.afterPulls_add j k (all.trans requests.symm)

end Feed

end CardListing
