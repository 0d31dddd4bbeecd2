import CardListing.Text.Basic

/-! Trimming undoes padding. A text without white space at its ends is its own trimmed form,
and so is what trimming leaves, however the text was padded.
-/

namespace CardListing

namespace Text

@[simp] theorem isBlank_nil : isBlank [] = true := rfl

@[simp] theorem isBlank_cons (c : Char) (rest : Text)
    : isBlank (c :: rest) = (isWhite c && rest.isBlank) := rfl

@[simp] theorem isBlank_append (left right : Text)
    : isBlank (left ++ right) = (left.isBlank && right.isBlank) :=
  List.all_append

theorem isBlank_replicate (n : Nat) : isBlank (List.replicate n ' ') = true := by
  refine List.all_eq_true.mpr fun c hc => ?_
  rw [List.eq_of_mem_replicate hc]
  rfl

theorem isBlank_of_sublist {left right : Text} (h : left.Sublist right)
    (blank : right.isBlank = true)
    : left.isBlank = true := by
  refine List.all_eq_true.mpr fun c hc => ?_
  exact List.all_eq_true.mp blank c (h.subset hc)

theorem justify_eq (width : Nat) (text : Text)
    : justify width text = text ++ List.replicate (width - text.length) ' ' := rfl

theorem justify_of_length_eq {width : Nat} {text : Text} (h : text.length = width)
    : justify width text = text := by
  rw [justify_eq, h, Nat.sub_self, List.replicate_zero, List.append_nil]

theorem isBlank_justify (width : Nat) (text : Text)
    : isBlank (justify width text) = text.isBlank := by
  rw [justify_eq, isBlank_append, isBlank_replicate, Bool.and_true]

-----------------------------------------------------------------------------------------
-- Trimmed texts
-----------------------------------------------------------------------------------------

/-- White space after a text that is not blank does not reach its leading white space. -/
theorem trimStart_append {text : Text} (h : text.isBlank = false) (more : Text)
    : trimStart (text ++ more) = trimStart text ++ more := by
  rw [trimStart, trimStart]
  induction text with
  | nil => simp at h
  | cons c rest ih =>
      cases hc : isWhite c
      · simp [hc]
      · simpa [hc] using ih (by simpa [hc] using h)

/-- White space after a text is trimmed away with what it is added to. -/
theorem trim_append_of_isBlank (text : Text) {white : Text} (h : white.isBlank = true)
    : trim (text ++ white) = trim text := by
  cases hb : text.isBlank with
  | true => rw [(trim_eq_nil_iff text).mpr hb, (trim_eq_nil_iff _).mpr (by simp [hb, h])]
  | false => rw [trim, trimStart_append hb, trimEnd_append_of_isBlank _ _ h, trim]

theorem trim_justify (width : Nat) (text : Text) : trim (justify width text) = trim text := by
  rw [justify_eq, trim_append_of_isBlank text (isBlank_replicate _)]

/-- No white space is left in front, so trimming the end keeps the first character. -/
theorem trimStart_trim (text : Text) : trimStart (trim text) = trim text := by
  rw [trim]
  cases hs : trimStart text with
  | nil => rfl
  | cons c rest =>
      have hc : ¬ isWhite c = true := by
        have kept := List.head?_dropWhile_not isWhite text
        rw [trimStart] at hs
        rw [hs] at kept
        simpa using kept
      rw [trimEnd_cons, if_neg fun h => hc h.2, trimStart, List.dropWhile_cons_of_neg hc]

@[simp] theorem trim_trim (text : Text) : trim (trim text) = trim text := by
  rw [trim, trimStart_trim, trim, trimEnd_trimEnd]

/-- Cutting a text after its end was trimmed leaves what cutting it before does, up to white
space at the new end.
-/
theorem trimEnd_take_trimEnd (count : Nat) (text : Text)
    : trimEnd ((trimEnd text).take count) = trimEnd (text.take count) := by
  obtain ⟨white, blank, htext⟩ := exists_trimEnd_append text
  have kept : isBlank (white.take (count - (trimEnd text).length)) = true :=
    isBlank_of_sublist (List.take_sublist _ _) blank
  have cut : text.take count
      = (trimEnd text).take count ++ white.take (count - (trimEnd text).length) := by
    rw [← List.take_append, ← htext]
  rw [cut, trimEnd_append_of_isBlank _ _ kept]

theorem length_trimEnd_le (text : Text) : (trimEnd text).length ≤ text.length := by
  obtain ⟨white, _, htext⟩ := exists_trimEnd_append text
  have total := congrArg List.length htext
  rw [List.length_append] at total
  omega

theorem length_trim_le (text : Text) : (trim text).length ≤ text.length :=
  Nat.le_trans (length_trimEnd_le _) (List.dropWhile_sublist isWhite).length_le

/-- What a column can hold: something, without white space at either end. -/
structure IsContent (text : Text) : Prop where
  notEmpty : text ≠ []
  trimmed : trim text = text

theorem isContent_singleton {c : Char} (h : isWhite c = false) : IsContent [c] := by
  refine ⟨List.cons_ne_nil c [], ?_⟩
  rw [trim, trimStart, List.dropWhile_cons_of_neg (by simp [h]), trimEnd_cons]
  simp [h]

theorem isContent_of_content? {text content : Text} (h : content? text = some content)
    : content.IsContent := by
  rw [content?_eq] at h
  split at h
  · cases h
  · rename_i hb
    cases h
    exact ⟨fun he => hb ((trim_eq_nil_iff text).mp he), trim_trim text⟩

theorem length_le_of_content? {text content : Text} (h : content? text = some content)
    : content.length ≤ text.length := by
  rw [content?_eq] at h
  split at h
  · cases h
  · cases h
    exact length_trim_le text

theorem content?_append_of_isBlank (text : Text) {white : Text} (h : white.isBlank = true)
    : content? (text ++ white) = content? text := by
  rw [content?, content?, trim_append_of_isBlank text h]

theorem content?_justify (width : Nat) (text : Text)
    : content? (justify width text) = content? text := by
  rw [content?, content?, trim_justify]

theorem IsContent.content?_eq {text : Text} (h : text.IsContent)
    : content? text = some text := by
  rw [content?, h.trimmed]
  cases text with
  | nil => exact (h.notEmpty rfl).elim
  | cons c rest => rfl

/-- The first character that trimming keeps is not white. -/
theorem IsContent.start {text : Text} (h : text.IsContent) {c : Char}
    (first : text.head? = some c)
    : isWhite c = false := by
  have kept := List.head?_dropWhile_not isWhite text
  have trimmed : text.dropWhile isWhite = text := by
    have same := trimStart_trim text
    rwa [h.trimmed] at same
  rw [trimmed, first] at kept
  simpa using kept

/-- The last character that trimming the end keeps is not white, by list induction. -/
theorem isWhite_of_getLast?_trimEnd {text : Text} {c : Char}
    (last : (trimEnd text).getLast? = some c)
    : isWhite c = false := by
  induction text with
  | nil => cases last
  | cons d rest ih =>
      rw [trimEnd_cons] at last
      split at last
      · cases last
      · rename_i kept
        cases hr : trimEnd rest with
        | nil =>
            rw [hr] at last kept
            cases last
            simpa using kept
        | cons e later =>
            rw [hr, List.getLast?_cons_cons] at last
            exact ih (hr ▸ last)

theorem IsContent.stop {text : Text} (h : text.IsContent) {c : Char}
    (last : text.getLast? = some c)
    : isWhite c = false := by
  rw [← h.trimmed, trim] at last
  exact isWhite_of_getLast?_trimEnd last

-----------------------------------------------------------------------------------------
-- What trimming takes away
-----------------------------------------------------------------------------------------

/-- Nothing is trimmed from the end of a text that does not end in white space. -/
theorem trimEnd_eq_self {text : Text} (h : ∀ c, text.getLast? = some c → isWhite c = false)
    : trimEnd text = text := by
  obtain ⟨white, blank, he⟩ := exists_trimEnd_append text
  cases last : white.getLast? with
  | none =>
      rw [List.getLast?_eq_none_iff.mp last, List.append_nil] at he
      exact he.symm
  | some c =>
      have member : c ∈ white := List.mem_of_getLast? last
      have ends : text.getLast? = some c := by
        rw [he, List.getLast?_append, last]
        rfl
      have isNot := h c ends
      rw [List.all_eq_true.mp blank c member] at isNot
      cases isNot

theorem trim_eq_self {text : Text} (start : ∀ c, text.head? = some c → isWhite c = false)
    (stop : ∀ c, text.getLast? = some c → isWhite c = false)
    : trim text = text := by
  have kept : trimStart text = text := by
    cases text with
    | nil => rfl
    | cons c rest =>
        have first := start c rfl
        rw [trimStart, List.dropWhile_cons_of_neg (by simp [first])]
  rw [trim, kept, trimEnd_eq_self stop]

/-- White space in front of a text is trimmed away. -/
theorem trim_append_left_of_isBlank {white : Text} (h : white.isBlank = true) (text : Text)
    : trim (white ++ text) = trim text := by
  rw [trim, trim, trimStart, trimStart, List.dropWhile_append_of_pos (List.all_eq_true.mp h)]

/-- The text is its trimmed part between blank ones. -/
theorem exists_trim_append (text : Text)
    : ∃ before after : Text,
        before.isBlank = true ∧ after.isBlank = true ∧ text = before ++ trim text ++ after := by
  obtain ⟨after, blank, he⟩ := exists_trimEnd_append (trimStart text)
  refine ⟨text.takeWhile isWhite, after, List.all_eq_true.mpr ?_, blank, ?_⟩
  · intro c member
    exact List.all_eq_true.mp List.all_takeWhile c member
  · rw [List.append_assoc, trim, ← he, trimStart, List.takeWhile_append_dropWhile]

/-- The second text is what the first holds between the white space at its ends: something
that neither starts nor ends with white space.
-/
structure StripsTo (text kept : Text) : Prop where
  notEmpty : kept ≠ []
  start : ∀ c, kept.head? = some c → isWhite c = false
  stop : ∀ c, kept.getLast? = some c → isWhite c = false
  around
    : ∃ before after : Text,
        before.isBlank = true ∧ after.isBlank = true ∧ text = before ++ kept ++ after

/-- The content of a text is exactly what it strips to. -/
theorem content?_eq_some_iff (text kept : Text)
    : content? text = some kept ↔ text.StripsTo kept := by
  constructor
  · intro found
    have content := isContent_of_content? found
    obtain ⟨before, after, left, right, he⟩ := exists_trim_append text
    rw [content?_eq] at found
    split at found
    · cases found
    · cases found
      exact ⟨content.notEmpty, fun _ => content.start, fun _ => content.stop,
        before, after, left, right, he⟩
  · rintro ⟨notEmpty, start, stop, before, after, left, right, rfl⟩
    have content : IsContent kept := ⟨notEmpty, trim_eq_self start stop⟩
    rw [← content.content?_eq, content?, content?, trim_append_of_isBlank _ right,
      trim_append_left_of_isBlank left]

end Text

end CardListing
