import CardListing.Proofs.Deck.BuilderRuns
import CardListing.Proofs.LineReading
import Mathlib.Algebra.Ring.Nat

/-! Every line pushed is accounted for once: it is blank or a comment, or belongs to an entry,
or is reported as unattached. The rows of the open statement belong to the entry that ending
the listing would complete, so the balance holds after every push.
-/

namespace CardListing

/-- Whether a line of the kind is left aside without a report. -/
def LineKind.isAside : LineKind → Bool
  | blank | comment => true
  | directive _ | numbered | unnumbered => false

/-- The number of listing lines that an entry is made of. -/
def Entry.lineCount : Entry → Nat
  | statement s => s.rowCount
  | directive _ => 1

namespace Event

/-- Whether the event is reported at the level with the message. -/
def isReport (level : EventLevel) (message : String) (event : Event) : Bool :=
  event.level = level && event.message = message

/-- The kind that a report of a directive tells. -/
def kind? : Event → Option Directive.Kind
  | directive _ kind => some kind
  | _ => none

end Event

/-- What grouping reports of a line: a directive's kind, and that an unnumbered line is dropped
because no statement is open or because its operation columns are blank.
-/
def groupingEvents (number : Nat) (isOpen : Bool) (line : Text) : List Event :=
  match LineKind.ofLine line with
  | .directive kind => [.directive number kind]
  | .unnumbered =>
    if isOpen = false ∨ (Card.mk line).row.isEmpty = true then [.unattached number] else []
  | .blank | .comment | .numbered => []

-----------------------------------------------------------------------------------------
-- Single pushes
-----------------------------------------------------------------------------------------

/-- Reading a line reports at most a control character that announces nothing. -/
theorem exists_control_of_notice? {line : Text} {event : Event} (h : notice? line = some event)
    : LineKind.ofLine line = .unnumbered ∧ ∃ control, event = .unrecognisedControl control := by
  unfold notice? at h
  split at h
  · rename_i kind
    obtain ⟨control, _, rfl⟩ := Option.map_eq_some_iff.mp h
    exact ⟨kind, control, rfl⟩
  · cases h

/-- What reading a line reports is none of the reports on grouping, which are louder. -/
theorem filter_isReport_trace_notice? (message : String) (line : Text)
    : (notice? line).toList.filter (Event.isReport .trace message) = [] := by
  refine List.filter_eq_nil_iff.mpr fun event member => ?_
  obtain ⟨_, control, rfl⟩ := exists_control_of_notice? (Option.mem_toList.mp member)
  exact Bool.false_ne_true

/-- Neither reading nor grouping reports anything of a line left aside. -/
theorem reports_of_isAside {line : Text} (h : (LineKind.ofLine line).isAside = true)
    (number : Nat) (isOpen : Bool)
    : (notice? line).toList ++ groupingEvents number isOpen line = [] := by
  rw [groupingEvents, notice?]
  cases hk : LineKind.ofLine line with
  | blank | comment => rfl
  | directive _ | numbered | unnumbered => simp [hk, LineKind.isAside] at h

@[simp] theorem Statement.rowCount_extend (s : Statement) (rows : List Row)
    : (s.extend rows).rowCount = s.rowCount + rows.length := by
  simp [rowCount, extend, Nat.add_assoc]

namespace Builder

/-- Every push reports what reading its line does and then what grouping it does. -/
theorem events_push (builder : Builder) (line : Text)
    : (builder.push line).2.events
      = (notice? line).toList
        ++ groupingEvents (builder.lineCount + 1) builder.isOpen line := by
  rw [events_push_eq_append, groupingEvents, LineKind.ofLine]
  have reads := Reading.reads_ofLine line
  generalize Reading.ofLine line = reading at reads ⊢
  cases reads with
  | blank _ | comment _ _ | numbered _ _ | directive _ _ _ _ => rfl
  | unnumbered _ _ _ =>
      cases hc : builder.current <;> cases he : (Card.mk line).row.isEmpty <;>
        simp [step, isOpen, hc, he, Reading.kind]

/-- The reports on grouping that a push makes are those of its step. -/
theorem filter_isReport_trace_push (message : String) (builder : Builder) (line : Text)
    : (builder.push line).2.events.filter (Event.isReport .trace message)
      = (builder.step (Reading.ofLine line)).2.events.filter
        (Event.isReport .trace message) := by
  rw [events_push_eq_append, List.filter_append, filter_isReport_trace_notice?,
    List.nil_append]

-----------------------------------------------------------------------------------------
-- The balance of lines
-----------------------------------------------------------------------------------------

/-- The lines of the entry that ending the listing now would complete. -/
def heldLines (builder : Builder) : Nat :=
  (builder.finish.toList.map Entry.lineCount).sum

theorem heldLines_of_open {builder : Builder} {s : Statement}
    (h : builder.current = some s)
    : builder.heldLines = s.rowCount := by
  simp [heldLines, finish, h, Entry.lineCount]

theorem heldLines_of_closed {builder : Builder} (h : builder.current = none)
    : builder.heldLines = 0 := by
  simp [heldLines, finish, h]

/-- The reports of lines that belong to nothing. -/
def dropped (events : List Event) : List Event :=
  events.filter (Event.isReport .trace "ignoring unattached line")

@[simp] theorem dropped_directive (number : Nat) (kind : Directive.Kind)
    : dropped [.directive number kind] = [] := by
  simp [dropped, Event.isReport, Event.message]

@[simp] theorem dropped_unattached (number : Nat)
    : dropped [.unattached number] = [.unattached number] := by
  simp [dropped, Event.isReport, Event.level, Event.message]

/-- Grouping one line keeps the balance: with the lines of the open statement, as many have
been left aside, completed or dropped as have been taken in. By the readings of a line.
-/
theorem heldLines_step (builder : Builder) (reading : Reading)
    : builder.heldLines + 1
      = (if reading.kind.isAside then 1 else 0)
        + ((builder.step reading).2.entries.map Entry.lineCount).sum
        + (dropped (builder.step reading).2.events).length
        + (builder.step reading).1.heldLines := by
  cases reading with
  | blank | comment =>
      have kept : builder.heldLines + 1 = 1 + builder.heldLines := Nat.add_comm _ _
      exact kept
  | directive d =>
      have closed : (builder.step (.directive d)).1.heldLines = 0 := heldLines_of_closed rfl
      have completed : ((builder.step (.directive d)).2.entries.map Entry.lineCount).sum
          = builder.heldLines + 1 := by
        simp [entries_step, Reading.isHead, Reading.directive?, heldLines, Entry.lineCount]
      have silent : dropped (builder.step (.directive d)).2.events = [] :=
        dropped_directive _ d.kind
      rw [closed, completed, silent]
      simp [Reading.kind, LineKind.isAside]
  | numbered record =>
      have opened : (builder.step (.numbered record)).1.heldLines = 1 :=
        heldLines_of_open (s := ⟨record, []⟩) rfl
      have completed : ((builder.step (.numbered record)).2.entries.map Entry.lineCount).sum
          = builder.heldLines := by
        simp [entries_step, Reading.isHead, Reading.directive?, heldLines]
      rw [opened, completed]
      simp [step, dropped, Reading.kind, LineKind.isAside]
  | unnumbered row =>
      by_cases h : builder.current = none ∨ row.isEmpty = true
      · rw [step_of_unattached h, dropped_unattached]
        have kept : builder.heldLines + 1 = 0 + 0 + 1 + builder.heldLines := by omega
        exact kept
      · obtain ⟨opened, content⟩ := not_or.mp h
        obtain ⟨s, hs⟩ := Option.ne_none_iff_exists'.mp opened
        rw [step_of_attached hs (by simpa using content), heldLines_of_open hs]
        have grown : s.rowCount + 1 = 0 + 0 + 0 + (s.extend [row]).rowCount := by simp
        rw [heldLines_of_open (s := s.extend [row]) rfl]
        exact grown

/-- A push keeps the balance of lines: what reading the line reports does not count. -/
theorem heldLines_push (builder : Builder) (line : Text)
    : builder.heldLines + 1
      = (if (LineKind.ofLine line).isAside then 1 else 0)
        + ((builder.push line).2.entries.map Entry.lineCount).sum
        + (dropped (builder.push line).2.events).length
        + (builder.push line).1.heldLines := by
  rw [dropped, filter_isReport_trace_push]
  exact builder.heldLines_step (Reading.ofLine line)

/-- A run keeps the balance of lines, and its end completes those that are held. By list
induction.
-/
theorem heldLines_add_length (builder : Builder) (lines : List Text)
    : builder.heldLines + lines.length
      = lines.countP (fun line => (LineKind.ofLine line).isAside)
        + ((builder.drain lines).map Entry.lineCount).sum
        + (dropped (builder.log lines)).length := by
  induction lines generalizing builder with
  | nil =>
      have ended : builder.heldLines = 0 + builder.heldLines + 0 := by omega
      exact ended
  | cons line rest ih =>
      have first := builder.heldLines_push line
      have later := ih (builder.push line).1
      have both : dropped (builder.log (line :: rest))
          = dropped (builder.push line).2.events ++ dropped ((builder.push line).1.log rest) :=
        filter_log_cons _ builder line rest
      rw [both, drain_cons, List.countP_cons, List.map_append, List.sum_append,
        List.length_append, List.length_cons]
      omega

-----------------------------------------------------------------------------------------
-- Directives
-----------------------------------------------------------------------------------------

/-- The reports of directives. -/
def announced (events : List Event) : List Event :=
  events.filter (Event.isReport .trace "directive")

theorem filterMap_directive?_finish (builder : Builder)
    : builder.finish.toList.filterMap Entry.directive? = [] := by
  cases hc : builder.current <;> simp [finish, hc, Entry.directive?]

theorem filterMap_directive?_step (builder : Builder) (reading : Reading)
    : (builder.step reading).2.entries.filterMap Entry.directive?
      = reading.directive?.toList := by
  rw [entries_step]
  cases reading with
  | blank | comment | unnumbered _ => rfl
  | directive d =>
      simp [Reading.isHead, Reading.directive?, filterMap_directive?_finish, Entry.directive?]
  | numbered record => simp [Reading.isHead, Reading.directive?, filterMap_directive?_finish]

theorem announced_step (builder : Builder) (reading : Reading)
    : announced (builder.step reading).2.events
      = reading.directive?.toList.map fun d =>
        .directive (builder.lineCount + 1) d.kind := by
  cases reading with
  | blank | comment | numbered _ => rfl
  | directive d =>
      simp [step, announced, Event.isReport, Event.level, Event.message, Reading.directive?]
  | unnumbered row =>
      cases hc : builder.current <;> cases he : row.isEmpty <;>
        simp [step, announced, hc, he, Event.isReport, Event.message, Reading.directive?]

/-- A push reports the kind of a directive exactly if it completes that directive. -/
theorem map_kind?_announced_push (builder : Builder) (line : Text)
    : (announced (builder.push line).2.events).map Event.kind?
      = ((builder.push line).2.entries.filterMap Entry.directive?).map fun d => some d.kind := by
  have reported : announced (builder.push line).2.events
      = announced (builder.step (Reading.ofLine line)).2.events :=
    filter_isReport_trace_push _ builder line
  rw [reported, announced_step, entries_push, filterMap_directive?_step, List.map_map]
  rfl

/-- The reports of a run tell the kinds of its directives in order, by list induction. -/
theorem map_kind?_announced_log (builder : Builder) (lines : List Text)
    : (announced (builder.log lines)).map Event.kind?
      = ((builder.drain lines).filterMap Entry.directive?).map fun d => some d.kind := by
  induction lines generalizing builder with
  | nil =>
      rw [drain, filterMap_directive?_finish]
      rfl
  | cons line rest ih =>
      have both : announced (builder.log (line :: rest))
          = announced (builder.push line).2.events
            ++ announced ((builder.push line).1.log rest) :=
        filter_log_cons _ builder line rest
      rw [both, List.map_append, map_kind?_announced_push, ih, drain_cons, List.filterMap_append,
        List.map_append]

end Builder

/-- The lines of entries are the rows of the statements and one for each directive. -/
theorem Entry.sum_lineCount (entries : List Entry)
    : (entries.map lineCount).sum
      = ((entries.filterMap statement?).map Statement.rowCount).sum
        + (entries.filterMap directive?).length := by
  induction entries with
  | nil => rfl
  | cons entry rest ih =>
      cases entry <;> simp only [List.map_cons, List.sum_cons, List.filterMap_cons, statement?,
        directive?, lineCount, List.length_cons, ih] <;> omega

namespace Builder

/-- Every line pushed is accounted for. The push of each line reports what reading it does and
what grouping it does, with its position among all lines; blank lines and comments report
nothing. There are as many lines as were left aside, are in the rows of a statement, are a
directive or were reported as unattached. The kinds of directives are reported in order.
-/
theorem lines_accounted (lines : List Text)
    : (∀ i line,
        lines[i]? = some line
        → ∃ emission,
          (emissions {} lines)[i]? = some emission
          ∧ emission.events
            = (notice? line).toList
              ++ groupingEvents (i + 1) (run {} (lines.take i)).isOpen line
          ∧ (∀ event ∈ notice? line, event.level = .debug)
          ∧ ((LineKind.ofLine line).isAside = true → emission.events = []))
      ∧ lines.length
        = lines.countP (fun line => (LineKind.ofLine line).isAside)
          + (((drain {} lines).filterMap Entry.statement?).map Statement.rowCount).sum
          + ((drain {} lines).filterMap Entry.directive?).length
          + (dropped (log {} lines)).length
      ∧ (announced (log {} lines)).map Event.kind?
        = ((drain {} lines).filterMap Entry.directive?).map fun d => some d.kind := by
  refine ⟨?_, ?_, map_kind?_announced_log {} lines⟩
  · intro i line found
    have number : (run {} (lines.take i)).lineCount = i := by
      have bound := (List.getElem?_eq_some_iff.mp found).1
      rw [lineCount_run, List.length_take, Nat.min_eq_left (Nat.le_of_lt bound), Nat.zero_add]
    have events := (run {} (lines.take i)).events_push line
    rw [number] at events
    refine ⟨((run {} (lines.take i)).push line).2, ?_, events, ?_, ?_⟩
    · rw [getElem?_emissions, found]
      rfl
    · intro event member
      obtain ⟨_, control, rfl⟩ := exists_control_of_notice? member
      rfl
    · intro aside
      rw [events, reports_of_isAside aside]
  · have balance := heldLines_add_length {} lines
    have fresh : heldLines {} = 0 := rfl
    rw [Entry.sum_lineCount] at balance
    omega

end Builder

end CardListing
