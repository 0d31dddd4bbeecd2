import CardListing.Proofs.BitSpan.ExactArithmetic

/-! Several spans of one word. Spans without a common bit do not notice each other, two that
stand side by side are read and written like one, and the values of spans that divide a word
among them bring it back, in whatever order they are written.
-/

namespace CardListing

namespace BitSpan

variable {span other : BitSpan} {width : Nat}

/-- Spans without a common bit can be written in either order. -/
theorem set_comm_of_disjoint (word part more : UInt64) (h : span.isWithin width = true)
    (ho : other.isWithin width = true) (disjoint : span.Disjoint other)
    : other.set (span.set word width part) width more
      = span.set (other.set word width more) width part := by
  refine ext_testBit fun i => ?_
  rw [testBit_set _ more ho, testBit_set _ part h, testBit_set _ part h, testBit_set _ more ho]
  by_cases covered : other.Covers width i
  · rw [if_pos covered, if_neg (disjoint.not_covers h ho covered), if_pos covered]
  · rw [if_neg covered, if_neg covered]

-----------------------------------------------------------------------------------------
-- Two spans side by side
-----------------------------------------------------------------------------------------

/-- The span made up of two that stand side by side. -/
def join (left right : BitSpan) (meet : left.last + 1 = right.first) : BitSpan where
  first := left.first
  last := right.last
  one_le_first := left.one_le_first
  first_le_last := by
    have := left.first_le_last
    have := right.first_le_last
    omega
  last_le := right.last_le

variable {left right : BitSpan}

theorem ofBounds?_join (meet : left.last + 1 = right.first)
    : ofBounds? left.first right.last = some (left.join right meet) :=
  (ofBounds?_eq_some_iff _ _ _).mpr ⟨rfl, rfl⟩

theorem disjoint_of_meet (meet : left.last + 1 = right.first) : left.Disjoint right :=
  Or.inl (meet ▸ Nat.lt_succ_self _)

/-- The left one has a bit, so the right one does not fill a word. -/
theorem length_lt_of_meet (meet : left.last + 1 = right.first) : right.length < 64 := by
  have := left.one_le_first
  have := left.first_le_last
  have := right.last_le
  rw [length]
  omega

theorem isWithin_of_meet (meet : left.last + 1 = right.first) (h : right.isWithin width = true)
    : left.isWithin width = true := by
  have := right.first_le_last
  rw [isWithin_iff] at h ⊢
  omega

/-- Below the left one is the right one with all that is below it. -/
theorem shift_of_meet (meet : left.last + 1 = right.first) (h : right.isWithin width = true)
    : left.shift width = right.shift width + right.length := by
  have := right.first_le_last
  have := ((isWithin_iff right width).mp h).1
  simp only [shift, length]
  omega

theorem shift_join (meet : left.last + 1 = right.first) (width : Nat)
    : (left.join right meet).shift width = right.shift width := rfl

theorem length_join (meet : left.last + 1 = right.first)
    : (left.join right meet).length = right.length + left.length := by
  have := left.first_le_last
  have := right.first_le_last
  simp only [length, join]
  omega

theorem isWithin_join (meet : left.last + 1 = right.first) (h : right.isWithin width = true)
    : (left.join right meet).isWithin width = true := h

theorem covers_join_iff (meet : left.last + 1 = right.first) (h : right.isWithin width = true)
    (i : Nat)
    : (left.join right meet).Covers width i ↔ left.Covers width i ∨ right.Covers width i := by
  simp only [Covers, length_join, shift_join, shift_of_meet meet h]
  omega

/-- The value of both is that of the left one moved to the left, with that of the right one.
-/
theorem toNat_get_join (meet : left.last + 1 = right.first) (word : UInt64)
    (h : right.isWithin width = true)
    : ((left.join right meet).get word width).toNat
      = (left.get word width).toNat * 2 ^ right.length + (right.get word width).toNat := by
  have upper := toNat_get left word width (isWithin_of_meet meet h)
  rw [shift_of_meet meet h, Nat.pow_add, ← Nat.div_div_eq_div_mul] at upper
  rw [toNat_get _ word width (isWithin_join meet h), shift_join, length_join, Nat.pow_add,
    Nat.mod_mul, ← upper, ← toNat_get right word width h, Nat.mul_comm, Nat.add_comm]

/-- Writing both at once is writing the highest bits of the part to the left one and the lowest
to the right one.
-/
theorem set_join (meet : left.last + 1 = right.first) (word part : UInt64)
    (h : right.isWithin width = true)
    : (left.join right meet).set word width part
      = right.set (left.set word width (part >>> UInt64.ofNat right.length)) width part := by
  refine ext_testBit fun i => ?_
  rw [testBit_set _ _ (isWithin_join meet h), testBit_set _ _ h,
    testBit_set _ _ (isWithin_of_meet meet h), shift_join]
  by_cases low : right.Covers width i
  · rw [if_pos ((covers_join_iff meet h i).mpr (Or.inr low)), if_pos low]
  by_cases high : left.Covers width i
  · have place : right.length + (i - left.shift width) = i - right.shift width := by
      have start := high.1
      rw [shift_of_meet meet h] at start ⊢
      omega
    rw [if_pos ((covers_join_iff meet h i).mpr (Or.inl high)), if_neg low, if_pos high,
      testBit_shiftRight part (length_lt_of_meet meet), place]
  · have outside : ¬ (left.join right meet).Covers width i := fun covered =>
      ((covers_join_iff meet h i).mp covered).elim high low
    rw [if_neg outside, if_neg low, if_neg high]

-----------------------------------------------------------------------------------------
-- Spans that divide a word
-----------------------------------------------------------------------------------------

/-- The spans follow one another without a gap from a bit on, and the last of them ends with
the word.
-/
def Tiles (start : Nat) : List BitSpan → Nat → Prop
  | [], width => start = width + 1
  | span :: rest, width => span.first = start ∧ Tiles (span.last + 1) rest width

instance Tiles.decidable (start : Nat)
    : (spans : List BitSpan) → (width : Nat) → Decidable (Tiles start spans width)
  | [], width => inferInstanceAs (Decidable (start = width + 1))
  | span :: rest, width =>
      have := Tiles.decidable (span.last + 1) rest width
      inferInstanceAs (Decidable (span.first = start ∧ _))

/-- The values of the spans in a word, each with its span. -/
def getAll (spans : List BitSpan) (word : UInt64) (width : Nat) : List (BitSpan × UInt64) :=
  spans.map fun span => (span, span.get word width)

/-- A word after parts have been written into it, one after the other. -/
def setAll (writes : List (BitSpan × UInt64)) (word : UInt64) (width : Nat) : UInt64 :=
  writes.foldl (fun word write => write.1.set word width write.2) word

theorem setAll_cons (write : BitSpan × UInt64) (rest : List (BitSpan × UInt64)) (word : UInt64)
    (width : Nat)
    : setAll (write :: rest) word width = setAll rest (write.1.set word width write.2) width :=
  rfl

variable {start : Nat} {spans : List BitSpan}

theorem Tiles.start_le (h : Tiles start spans width) : start ≤ width + 1 := by
  induction spans generalizing start with
  | nil => exact Nat.le_of_eq h
  | cons span rest ih =>
      obtain ⟨rfl, tail⟩ := h
      have := ih tail
      have := span.first_le_last
      omega

/-- Spans that divide a word lie within it, by list induction: the last of them ends with the
word, so the word is no wider than a span can be.
-/
theorem Tiles.isWithin (h : Tiles start spans width)
    : ∀ span ∈ spans, span.isWithin width = true := by
  induction spans generalizing start with
  | nil => nofun
  | cons span rest ih =>
      obtain ⟨rfl, tail⟩ := h
      have later := ih tail
      intro other member
      rcases List.mem_cons.mp member with rfl | among
      · have room := tail.start_le
        rw [isWithin_iff]
        cases rest with
        | nil =>
            have last : other.last + 1 = width + 1 := tail
            have := other.last_le
            omega
        | cons next further =>
            have := (isWithin_iff next width).mp (later next List.mem_cons_self)
            omega
      · exact later other among

/-- Every bit of the word from the first of the spans on belongs to one of them. -/
theorem Tiles.exists_covers (h : Tiles start spans width) {i : Nat} (below : i + start ≤ width)
    : ∃ span ∈ spans, span.Covers width i := by
  induction spans generalizing start with
  | nil =>
      have ended : start = width + 1 := h
      omega
  | cons span rest ih =>
      obtain ⟨rfl, tail⟩ := h
      by_cases later : i + (span.last + 1) ≤ width
      · obtain ⟨other, member, covered⟩ := ih tail later
        exact ⟨other, List.mem_cons_of_mem span member, covered⟩
      · have room := tail.start_le
        have := span.first_le_last
        refine ⟨span, List.mem_cons_self, ?_⟩
        simp only [Covers, shift, length]
        omega

/-- Writing values of one word brings the bits of that word wherever something is written, by
list induction over what is written.
-/
theorem testBit_setAll {writes : List (BitSpan × UInt64)} {source : UInt64}
    (own : ∀ write ∈ writes,
      write.1.isWithin width = true ∧ write.2 = write.1.get source width)
    (word : UInt64) (i : Nat)
    : (setAll writes word width).toNat.testBit i
      = if ∃ write ∈ writes, write.1.Covers width i then
          source.toNat.testBit i
        else
          word.toNat.testBit i := by
  induction writes generalizing word with
  | nil => simp [setAll]
  | cons write rest ih =>
      obtain ⟨within, value⟩ := own write List.mem_cons_self
      have others := fun other among => own other (List.mem_cons_of_mem write among)
      rw [setAll_cons, ih others, value, testBit_set_get word source within]
      by_cases later : ∃ other ∈ rest, other.1.Covers width i
      · simp [later]
      · by_cases now : write.1.Covers width i <;> simp [later, now]

/-- The values of spans that divide a word bring it back in any word that has the same bits
above, in whatever order they are written.
-/
theorem Tiles.setAll_of_perm (h : Tiles 1 spans width) {source target : UInt64}
    (above : target.toNat / 2 ^ width = source.toNat / 2 ^ width)
    {writes : List (BitSpan × UInt64)} (perm : writes.Perm (getAll spans source width))
    : setAll writes target width = source := by
  have own : ∀ write ∈ writes,
      write.1.isWithin width = true ∧ write.2 = write.1.get source width := by
    intro write member
    obtain ⟨span, among, rfl⟩ := List.mem_map.mp (perm.mem_iff.mp member)
    exact ⟨h.isWithin span among, rfl⟩
  refine ext_testBit fun i => ?_
  rw [testBit_setAll own]
  by_cases inside : i < width
  · obtain ⟨span, among, covered⟩ := h.exists_covers inside
    have written : (span, span.get source width) ∈ writes :=
      perm.mem_iff.mpr (List.mem_map_of_mem among)
    rw [if_pos ⟨_, written, covered⟩]
  · have same := congrArg (fun number => number.testBit (i - width)) above
    simp only [Nat.testBit_div_two_pow, Nat.sub_add_cancel (Nat.le_of_not_lt inside)] at same
    split
    · rfl
    · exact same

/-- Spans of a word without a common bit are read and written independently. Two that stand
side by side are read and written like the span they make up, whose parts are those of the
left one with those of the right one below them. Spans that divide the word, however many
and however long, bring it back from their values in any order.
-/
theorem spans_compose (width : Nat)
    : (∀ span other : BitSpan,
        span.isWithin width = true
        → other.isWithin width = true
        → span.Disjoint other
        → ∀ word part more,
          span.get (other.set word width part) width = span.get word width
          ∧ other.set (span.set word width part) width more
            = span.set (other.set word width more) width part)
      ∧ (∀ left right : BitSpan,
        left.last + 1 = right.first
        → right.isWithin width = true
        → right.length < 64
          ∧ ∃ whole,
            ofBounds? left.first right.last = some whole
            ∧ ∀ word part,
              (whole.get word width).toNat
                = (left.get word width).toNat * 2 ^ right.length
                  + (right.get word width).toNat
              ∧ whole.set word width part
                = right.set (left.set word width (part >>> UInt64.ofNat right.length)) width part
              ∧ whole.set word width part
                = left.set (right.set word width part) width
                    (part >>> UInt64.ofNat right.length))
      ∧ ∀ spans,
        Tiles 1 spans width
        → ∀ source target : UInt64,
          target.toNat / 2 ^ width = source.toNat / 2 ^ width
          → ∀ writes : List (BitSpan × UInt64),
            writes.Perm (getAll spans source width) → setAll writes target width = source := by
  refine ⟨?_, ?_, ?_⟩
  · intro span other h ho disjoint word part more
    exact ⟨get_set_of_disjoint word part h ho disjoint,
      set_comm_of_disjoint word part more h ho disjoint⟩
  · intro left right meet h
    have hl := isWithin_of_meet meet h
    refine ⟨length_lt_of_meet meet, left.join right meet, ofBounds?_join meet, ?_⟩
    intro word part
    refine ⟨toNat_get_join meet word h, set_join meet word part h, ?_⟩
    rw [set_join meet word part h, set_comm_of_disjoint word _ part hl h (disjoint_of_meet meet)]
  · intro spans tiles source target above writes perm
    exact tiles.setAll_of_perm above perm

/-- Ten bits below others are divided among spans of three bits, one and six. The values are
written out of their order, the first span does not notice the last, and the last two are
read like one.
-/
theorem spans_compose_three_parts
    : (Tiles 1
          [{ first := 1, last := 3 }, { first := 4, last := 4 }, { first := 5, last := 10 }] 10
        ∧ (0xFC00 : UInt64).toNat / 2 ^ 10 = (0xFEB5 : UInt64).toNat / 2 ^ 10
        ∧ setAll
            [({ first := 4, last := 4 }, 0), ({ first := 5, last := 10 }, 0x35),
              ({ first := 1, last := 3 }, 5)]
            0xFC00 10
          = 0xFEB5)
      ∧ (Disjoint { first := 1, last := 3 } { first := 5, last := 10 }
        ∧ ∀ word,
          get { first := 1, last := 3 } (set { first := 5, last := 10 } word 10 0x35) 10
            = get { first := 1, last := 3 } word 10)
      ∧ isWithin { first := 5, last := 10 } 10 = true
      ∧ ∃ whole,
        ofBounds? 4 10 = some whole ∧ (whole.get 0xFEB5 10).toNat = 0 * 2 ^ 6 + 0x35 := by
  have tiles : Tiles 1
      [{ first := 1, last := 3 }, { first := 4, last := 4 }, { first := 5, last := 10 }] 10 := by
    decide
  have within : isWithin { first := 5, last := 10 } 10 = true := rfl
  have apart : Disjoint { first := 1, last := 3 } { first := 5, last := 10 } := by decide
  refine ⟨⟨tiles, rfl, ?_⟩, ⟨apart, fun word => ?_⟩, within, ?_⟩
  · exact (spans_compose 10).2.2 _ tiles 0xFEB5 0xFC00 rfl _ (by decide)
  · exact ((spans_compose 10).1 _ _ rfl within apart word 0x35 0).1
  · obtain ⟨_, whole, made, values⟩ :=
      (spans_compose 10).2.1 { first := 4, last := 4 } { first := 5, last := 10 } rfl within
    exact ⟨whole, made, (values 0xFEB5 0).1⟩

end BitSpan

end CardListing
