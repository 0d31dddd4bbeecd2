import CardListing.Proofs.Deck.BuilderSegments
import CardListing.Proofs.LineReading
import Mathlib.Data.List.Forall2

/-! Entries told by the positions of their lines. The entries of a deck correspond in order
to the heads of its listing, and the lines that the entries are made of are exactly those
that contribute, each of them once and in order.
-/

namespace CardListing

/-- Whether a line of the kind starts an entry. -/
def LineKind.isHead : LineKind → Bool
  | directive _ | numbered => true
  | blank | comment | unnumbered => false

@[simp] theorem Reading.isHead_kind (reading : Reading)
    : reading.kind.isHead = reading.isHead := by
  cases reading <;> rfl

namespace Deck

-----------------------------------------------------------------------------------------
-- Positions in a listing
-----------------------------------------------------------------------------------------

/-- The positions, from 0, of the lines with a property. -/
def positions (p : Text → Bool) (lines : List Text) : List Nat :=
  (List.range lines.length).filter fun i => lines[i]?.any p

def heads : List Text → List Nat := positions fun line => (LineKind.ofLine line).isHead

/-- Whether the line is unnumbered and has something in its operation columns. -/
def offersRow (line : Text) : Bool :=
  LineKind.ofLine line = .unnumbered && !(Card.mk line).row.isEmpty

/-- The positions after `i` and before the next head whose lines offer a row. -/
def followers (lines : List Text) (i : Nat) : List Nat :=
  (positions offersRow lines).filter fun j => i < j ∧ ∀ k ∈ heads lines, k ≤ i ∨ j < k

/-- The operation columns of the lines at the given positions. -/
def rowsAt (lines : List Text) (indices : List Nat) : List Row :=
  indices.filterMap fun i => lines[i]?.map fun line => (Card.mk line).row

theorem mem_positions {p : Text → Bool} {lines : List Text} {i : Nat}
    : i ∈ positions p lines ↔ ∃ line, lines[i]? = some line ∧ p line = true := by
  simp only [positions, List.mem_filter, List.mem_range]
  constructor
  · rintro ⟨hi, hp⟩
    exact ⟨lines[i], List.getElem?_eq_getElem hi, by simpa [hi] using hp⟩
  · rintro ⟨line, hl, hp⟩
    exact ⟨(List.getElem?_eq_some_iff.mp hl).1, by simp [hl, hp]⟩

theorem positions_pairwise (p : Text → Bool) (lines : List Text)
    : (positions p lines).Pairwise (· < ·) :=
  List.pairwise_lt_range.filter _

theorem positions_cons (p : Text → Bool) (line : Text) (rest : List Text)
    : positions p (line :: rest)
      = (if p line then [0] else []) ++ (positions p rest).map (· + 1) := by
  simp only [positions, List.length_cons, List.range_succ_eq_map, List.filter_cons,
    List.filter_map]
  have shifted : ((fun i => (line :: rest)[i]?.any p) ∘ Nat.succ) = fun i => rest[i]?.any p := by
    funext i
    simp
  rw [shifted]
  cases hp : p line <;> simp [hp]

@[simp] theorem isHead_ofLine (line : Text)
    : (LineKind.ofLine line).isHead = (Reading.ofLine line).isHead :=
  Reading.isHead_kind _

theorem heads_cons (line : Text) (rest : List Text)
    : heads (line :: rest)
      = (if (Reading.ofLine line).isHead then [0] else []) ++ (heads rest).map (· + 1) := by
  rw [heads, positions_cons, isHead_ofLine]

theorem continuation?_ofLine (line : Text)
    : (Reading.ofLine line).continuation?
      = if offersRow line then some (Card.mk line).row else none := by
  rw [offersRow, LineKind.ofLine]
  have reads := Reading.reads_ofLine line
  generalize Reading.ofLine line = reading at reads ⊢
  cases reads with
  | blank _ | comment _ _ | numbered _ _ | directive _ _ _ _ =>
      simp [Reading.kind, Reading.continuation?]
  | unnumbered _ _ _ =>
      cases he : (Card.mk line).row.isEmpty <;>
        simp [Reading.kind, Reading.continuation?, he]

-----------------------------------------------------------------------------------------
-- Rows of one head
-----------------------------------------------------------------------------------------

/-- The positions before the first head whose lines offer a row. -/
def leaders (lines : List Text) : List Nat :=
  (positions offersRow lines).filter fun j => ∀ k ∈ heads lines, j < k

@[simp] theorem rowsAt_map_succ (line : Text) (rest : List Text) (indices : List Nat)
    : rowsAt (line :: rest) (indices.map (· + 1)) = rowsAt rest indices := by
  simp [rowsAt, List.filterMap_map]

@[simp] theorem rowsAt_zero_cons (line : Text) (rest : List Text) (indices : List Nat)
    : rowsAt (line :: rest) (0 :: indices)
      = (Card.mk line).row :: rowsAt (line :: rest) indices := rfl

theorem leaders_cons (line : Text) (rest : List Text)
    : leaders (line :: rest)
      = if (Reading.ofLine line).isHead then
          []
        else
          (if offersRow line then [0] else []) ++ (leaders rest).map (· + 1) := by
  rw [leaders, heads_cons, positions_cons]
  cases hh : (Reading.ofLine line).isHead
  · cases ho : offersRow line <;>
      simp [leaders, List.filter_map, Function.comp_def]
  · -- The first line is a head, and no position lies before it.
    simp

/-- The rows before the first head are those at the leading positions, by list induction. -/
theorem rowsAt_leaders (lines : List Text) : rowsAt lines (leaders lines) = leadRows lines := by
  induction lines with
  | nil => rfl
  | cons line rest ih =>
      rw [leaders_cons, leadRows_cons, continuation?_ofLine]
      cases hh : (Reading.ofLine line).isHead
      · cases ho : offersRow line <;> simp [ih]
      · rfl

theorem followers_cons_zero (line : Text) (rest : List Text)
    : followers (line :: rest) 0 = (leaders rest).map (· + 1) := by
  rw [followers, heads_cons, positions_cons]
  cases hh : (Reading.ofLine line).isHead <;> cases ho : offersRow line <;>
    simp [leaders, List.filter_map, Function.comp_def]

theorem followers_cons_succ (line : Text) (rest : List Text) (i : Nat)
    : followers (line :: rest) (i + 1) = (followers rest i).map (· + 1) := by
  rw [followers, heads_cons, positions_cons]
  cases hh : (Reading.ofLine line).isHead <;> cases ho : offersRow line <;>
    simp [followers, List.filter_map, Function.comp_def]

theorem length_rowsAt_leaders (lines : List Text)
    : (rowsAt lines (leaders lines)).length = (leaders lines).length := by
  refine List.filterMap_length_eq_length.mpr ?_
  intro j hj
  obtain ⟨line, found, _⟩ := mem_positions.mp (List.mem_filter.mp hj).1
  simp [found]

-----------------------------------------------------------------------------------------
-- Entries and heads
-----------------------------------------------------------------------------------------

/-- The kind of the line at a position, if there is one. -/
def kindAt (lines : List Text) (i : Nat) : Option LineKind := lines[i]?.map LineKind.ofLine

/-- The positions of the lines that the entry of the head at `i` is made of. -/
def linesOf (lines : List Text) (i : Nat) : List Nat :=
  i :: if kindAt lines i = some .numbered then followers lines i else []

/-- What the entry of the head at `i` is: the directive that its line reads as, or the
statement of its line and of all rows offered before the next head.
-/
inductive EntryAt (lines : List Text) (i : Nat) : Entry → Prop
  | directive {line control d} (found : lines[i]? = some line)
    (kind : LineKind.ofLine line = .directive d.kind)
    (marked : (Card.mk line).record.control? = some control)
    (read : control.directive? line = some d)
    : EntryAt lines i (.directive d)
  | statement {line s} (found : lines[i]? = some line)
    (kind : LineKind.ofLine line = .numbered)
    (primary : s.primary = (Card.mk line).record)
    (continuations : s.continuations = rowsAt lines (followers lines i))
    (rows : s.rows = (Card.mk line).row :: rowsAt lines (followers lines i))
    (rowCount : s.rowCount = s.rows.length)
    (lineCount : s.rowCount = (linesOf lines i).length)
    : EntryAt lines i (.statement s)

theorem linesOf_cons_succ (line : Text) (rest : List Text) (i : Nat)
    : linesOf (line :: rest) (i + 1) = (linesOf rest i).map (· + 1) := by
  rw [linesOf, linesOf, followers_cons_succ, kindAt, kindAt, List.getElem?_cons_succ]
  split <;> rfl

theorem EntryAt.cons {line : Text} {rest : List Text} {i : Nat} {entry : Entry}
    (h : EntryAt rest i entry)
    : EntryAt (line :: rest) (i + 1) entry := by
  cases h with
  | directive found kind marked read => exact .directive (by simpa using found) kind marked read
  | statement found kind primary continuations rows rowCount lineCount =>
      refine .statement (by simpa using found) kind primary ?_ ?_ rowCount ?_
      · rw [followers_cons_succ, rowsAt_map_succ, continuations]
      · rw [followers_cons_succ, rowsAt_map_succ, rows]
      · rw [linesOf_cons_succ, List.length_map, lineCount]

/-- The statement of a numbered first line has the rows before the next head. -/
theorem entryAt_zero_statement {line : Text} {rest : List Text}
    (kind : LineKind.ofLine line = .numbered)
    : EntryAt (line :: rest) 0 (.statement ⟨(Card.mk line).record, leadRows rest⟩) := by
  have rows : rowsAt (line :: rest) (followers (line :: rest) 0) = leadRows rest := by
    rw [followers_cons_zero, rowsAt_map_succ, rowsAt_leaders]
  refine .statement rfl kind rfl rows.symm ?_ (Statement.length_rows _).symm ?_
  · rw [rows]
    rfl
  · have count := length_rowsAt_leaders rest
    rw [rowsAt_leaders] at count
    simp [Statement.rowCount, linesOf, kindAt, kind, followers_cons_zero, count, Nat.add_comm]

/-- Segments correspond in order to heads, by list induction: a head's entry is told by the
lines after it, and the entries of later heads keep their place when a line is put in front.
-/
theorem forall₂_entryAt_segments (lines : List Text)
    : List.Forall₂ (EntryAt lines) (heads lines) (segments lines) := by
  induction lines with
  | nil => exact .nil
  | cons line rest ih =>
      have later : List.Forall₂ (EntryAt (line :: rest)) ((heads rest).map (· + 1))
          (segments rest) :=
        List.forall₂_map_left_iff.mpr (ih.imp fun _ _ h => h.cons)
      have reads := Reading.reads_ofLine line
      have kind : LineKind.ofLine line = (Reading.ofLine line).kind := rfl
      rw [heads_cons, segments_cons]
      generalize Reading.ofLine line = reading at reads kind ⊢
      cases reads with
      | blank _ => exact later
      | comment _ _ => exact later
      | unnumbered _ _ _ => exact later
      | numbered _ _ => exact .cons (entryAt_zero_statement kind) later
      | directive _ _ marked found => exact .cons (.directive rfl kind marked found) later

-----------------------------------------------------------------------------------------
-- Every contributing line belongs to one entry
-----------------------------------------------------------------------------------------

/-- The line at `j` offers a row and comes after a numbered line that no directive has
closed before `j`.
-/
structure Attached (lines : List Text) (j : Nat) : Prop where
  offers : ∃ line, lines[j]? = some line ∧ offersRow line = true
  numbered
    : ∃ i < j,
        kindAt lines i = some .numbered
        ∧ ∀ k, i < k → k < j → ∀ kind, kindAt lines k ≠ some (.directive kind)

/-- The line at `j` has a place in the deck: it is a head or attached to one. -/
def Contributes (lines : List Text) (j : Nat) : Prop := j ∈ heads lines ∨ Attached lines j

theorem mem_heads {lines : List Text} {i : Nat}
    : i ∈ heads lines ↔ ∃ kind, kindAt lines i = some kind ∧ kind.isHead = true := by
  rw [heads, mem_positions, kindAt]
  constructor
  · rintro ⟨line, found, head⟩
    exact ⟨_, by rw [found]; rfl, head⟩
  · rintro ⟨kind, mapped, head⟩
    obtain ⟨line, found, hl⟩ := Option.map_eq_some_iff.mp mapped
    exact ⟨line, found, by rw [hl]; exact head⟩

theorem not_mem_heads_of_offersRow {lines : List Text} {line : Text} {j : Nat}
    (found : lines[j]? = some line) (offers : offersRow line = true)
    : j ∉ heads lines := by
  intro member
  obtain ⟨kind, at_j, head⟩ := mem_heads.mp member
  have unnumbered : LineKind.ofLine line = .unnumbered := by
    simpa using (Bool.and_eq_true_iff.mp offers).1
  rw [kindAt, found, Option.map_some, unnumbered] at at_j
  cases at_j
  cases head

theorem mem_followers {lines : List Text} {i j : Nat}
    : j ∈ followers lines i
      ↔ (∃ line, lines[j]? = some line ∧ offersRow line = true)
        ∧ i < j
        ∧ ∀ k ∈ heads lines, k ≤ i ∨ j < k := by
  simp [followers, mem_positions]

theorem mem_linesOf {lines : List Text} {i j : Nat}
    : j ∈ linesOf lines i
      ↔ j = i ∨ kindAt lines i = some .numbered ∧ j ∈ followers lines i := by
  rw [linesOf]
  split <;> rename_i hk <;> simp [hk]

/-- A head's lines lie before the next head, so lines of different heads never interleave.
-/
theorem linesOf_lt_of_heads_lt {lines : List Text} {i k x y : Nat} (hk : k ∈ heads lines)
    (hik : i < k) (hx : x ∈ linesOf lines i) (hy : y ∈ linesOf lines k)
    : x < y := by
  have before : x < k := by
    rcases mem_linesOf.mp hx with rfl | ⟨_, follows⟩
    · exact hik
    · rcases (mem_followers.mp follows).2.2 k hk with earlier | later
      · omega
      · exact later
  rcases mem_linesOf.mp hy with rfl | ⟨_, follows⟩
  · exact before
  · exact Nat.lt_trans before (mem_followers.mp follows).2.1

theorem linesOf_pairwise (lines : List Text) (i : Nat)
    : (linesOf lines i).Pairwise (· < ·) := by
  rw [linesOf, List.pairwise_cons]
  split
  · refine ⟨fun j hj => (mem_followers.mp hj).2.1, ?_⟩
    exact (positions_pairwise offersRow lines).filter _
  · exact ⟨by simp, .nil⟩

/-- The nearest head before an attached line is numbered. Witness: induction on the distance;
a head in between is numbered too, since no directive is, and lies nearer.
-/
theorem exists_nearest_numbered {lines : List Text} {i j : Nat} (hij : i < j)
    (numbered : kindAt lines i = some .numbered)
    (clear : ∀ k, i < k → k < j → ∀ kind, kindAt lines k ≠ some (.directive kind))
    : ∃ i < j,
        kindAt lines i = some .numbered ∧ ∀ k ∈ heads lines, k ≤ i ∨ j ≤ k := by
  by_cases between : ∃ k ∈ heads lines, i < k ∧ k < j
  · obtain ⟨k, head, hik, hkj⟩ := between
    obtain ⟨kind, found, isHead⟩ := mem_heads.mp head
    cases kind with
    | blank | comment | unnumbered => cases isHead
    | directive kind => exact (clear k hik hkj kind found).elim
    | numbered =>
        exact exists_nearest_numbered hkj found
          (fun l hl => clear l (Nat.lt_trans hik hl))
  · refine ⟨i, hij, numbered, ?_⟩
    intro k head
    by_cases hik : k ≤ i
    · exact Or.inl hik
    · exact Or.inr (Nat.le_of_not_lt fun hkj => between ⟨k, head, by omega, hkj⟩)
termination_by j - i

/-- An entry is made of contributing lines only and no contributing line is left out. -/
theorem mem_flatMap_linesOf {lines : List Text} {j : Nat}
    : j ∈ (heads lines).flatMap (linesOf lines) ↔ Contributes lines j := by
  rw [List.mem_flatMap]
  constructor
  · rintro ⟨i, head, member⟩
    rcases mem_linesOf.mp member with rfl | ⟨numbered, follows⟩
    · exact Or.inl head
    · obtain ⟨offers, hij, clear⟩ := mem_followers.mp follows
      refine Or.inr ⟨offers, i, hij, numbered, ?_⟩
      intro k hik hkj kind directive
      have head : k ∈ heads lines := mem_heads.mpr ⟨_, directive, rfl⟩
      have outside := clear k head
      omega
  · rintro (head | ⟨⟨line, found, offers⟩, i, hij, numbered, clear⟩)
    · exact ⟨j, head, mem_linesOf.mpr (Or.inl rfl)⟩
    · obtain ⟨i, hij, numbered, nearest⟩ := exists_nearest_numbered hij numbered clear
      refine ⟨i, mem_heads.mpr ⟨_, numbered, rfl⟩, mem_linesOf.mpr (Or.inr ⟨numbered, ?_⟩)⟩
      refine mem_followers.mpr ⟨⟨line, found, offers⟩, hij, ?_⟩
      intro k head
      -- The line itself is unnumbered, so the next head lies strictly behind it.
      have other : k ≠ j := by
        rintro rfl
        exact not_mem_heads_of_offersRow found offers head
      have outside := nearest k head
      omega

/-- The entries of a deck correspond one to one and in order to the heads of its listing;
each directive is that of its line, each statement has the fields of its line and the rows
before the next head. The lines they are made of are, in order and without repetition, those
that contribute.
-/
theorem entries_ofLines_by_position (lines : List Text)
    : List.Forall₂ (EntryAt lines) (heads lines) (ofLines lines).entries
      ∧ ((heads lines).flatMap (linesOf lines)).Pairwise (· < ·)
      ∧ ∀ j, j ∈ (heads lines).flatMap (linesOf lines) ↔ Contributes lines j := by
  refine ⟨?_, ?_, fun j => mem_flatMap_linesOf⟩
  · rw [entries_ofLines]
    exact forall₂_entryAt_segments lines
  · rw [List.pairwise_flatMap]
    refine ⟨fun i _ => linesOf_pairwise lines i, ?_⟩
    have sorted := positions_pairwise (fun line => (LineKind.ofLine line).isHead) lines
    refine List.Pairwise.imp_of_mem ?_ sorted
    intro i k _ hk hik x hx y hy
    exact linesOf_lt_of_heads_lt hk hik hx hy

end Deck

end CardListing
