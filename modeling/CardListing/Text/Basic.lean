import CardListing.Text.WhiteSpace

/-!
Texts as lists of characters. A listing is laid out in columns and a column holds one
character, so positions in a line are positions in this list. Trimming removes white
space from the ends of a text and leaves the middle alone.
-/

namespace CardListing

/-- A text, one character per column. -/
abbrev Text := List Char

namespace Text

/-- Whether a text holds white space only; the empty text does. -/
def isBlank (text : Text) : Bool := text.all isWhite

def trimStart (text : Text) : Text := text.dropWhile isWhite

/-- The text without its trailing white space: a character stays if it is not white or
if something after it stays. -/
def trimEnd : Text → Text
  | [] => []
  | c :: rest =>
    match trimEnd rest with
    | [] => if isWhite c then [] else [c]
    | kept => c :: kept

/-- The text without white space at either end. -/
def trim (text : Text) : Text := trimEnd (trimStart text)

/-- The trimmed text, or nothing when the text is blank. -/
def content? (text : Text) : Option Text :=
  match trim text with
  | [] => none
  | kept => some kept

/-- The text with blanks added on the right up to the given width. -/
def justify (width : Nat) (text : Text) : Text := text.rightpad width ' '

@[simp] theorem trimEnd_nil : trimEnd [] = [] := rfl

/-- Trimming the end of a longer text, by what is left of its tail. -/
theorem trimEnd_cons (c : Char) (rest : Text)
    : trimEnd (c :: rest)
      = if trimEnd rest = [] ∧ isWhite c = true then [] else c :: trimEnd rest := by
  rw [trimEnd]
  split
  · rename_i h
    simp [h]
  · rename_i h
    have hne : trimEnd rest ≠ [] := h
    simp [hne]

/-- Nothing is left of a text exactly when it is blank, by list induction. -/
theorem trimEnd_eq_nil_iff (text : Text)
    : trimEnd text = [] ↔ text.isBlank = true := by
  induction text with
  | nil => simp [isBlank]
  | cons c rest ih =>
      rw [trimEnd_cons]
      simp only [isBlank, List.all_cons, Bool.and_eq_true] at ih ⊢
      by_cases hc : isWhite c = true <;> simp [hc, ih]

/-- The text is its trimmed part followed by a blank one, by list induction. -/
theorem exists_trimEnd_append (text : Text)
    : ∃ white : Text, white.isBlank = true ∧ text = trimEnd text ++ white := by
  induction text with
  | nil => exact ⟨[], rfl, rfl⟩
  | cons c rest ih =>
      obtain ⟨white, hwhite, hrest⟩ := ih
      rw [trimEnd_cons]
      split
      · rename_i h
        refine ⟨c :: rest, ?_, rfl⟩
        simpa [isBlank, h.2] using (trimEnd_eq_nil_iff rest).mp h.1
      · exact ⟨white, hwhite, by rw [List.cons_append, ← hrest]⟩

/-- White space added at the end is trimmed away, by list induction. -/
theorem trimEnd_append_of_isBlank (text white : Text) (h : white.isBlank = true)
    : trimEnd (text ++ white) = trimEnd text := by
  induction text with
  | nil => simpa using (trimEnd_eq_nil_iff white).mpr h
  | cons c rest ih => rw [List.cons_append, trimEnd_cons, trimEnd_cons, ih]

@[simp] theorem trimEnd_trimEnd (text : Text) : trimEnd (trimEnd text) = trimEnd text := by
  obtain ⟨white, hwhite, htext⟩ := exists_trimEnd_append text
  rw [← trimEnd_append_of_isBlank (trimEnd text) white hwhite, ← htext]

/-- Trimming leaves nothing exactly of a blank text. -/
theorem trim_eq_nil_iff (text : Text) : trim text = [] ↔ text.isBlank = true := by
  rw [trim, trimEnd_eq_nil_iff, trimStart, isBlank, isBlank]
  induction text with
  | nil => simp
  | cons c rest ih => by_cases hc : isWhite c = true <;> simp [hc, ih]

/-- A blank text has no content and that of any other text is the trimmed text. -/
theorem content?_eq (text : Text)
    : content? text = if text.isBlank = true then none else some (trim text) := by
  rw [content?]
  split <;> rename_i h
  · simp [(trim_eq_nil_iff text).mp h]
  · have hb : ¬ text.isBlank = true := fun hb => h ((trim_eq_nil_iff text).mpr hb)
    simp [hb]

theorem content?_eq_none_iff (text : Text)
    : content? text = none ↔ text.isBlank = true := by
  rw [content?_eq]
  cases text.isBlank <;> simp

/-- A text is at least as wide as asked for after justification. -/
@[simp] theorem length_justify (width : Nat) (text : Text)
    : (text.justify width).length = max width text.length := by
  simp [justify, List.rightpad]
  omega

/-- A text cut and filled up to a width, position by position. -/
theorem justify_take_eq_map (width : Nat) (text : Text)
    : justify width (text.take width)
      = (List.range width).map fun j => text[j]?.getD ' ' := by
  apply List.ext_getElem
  · rw [length_justify, List.length_take, List.length_map, List.length_range]
    omega
  · intro j hj hj'
    have inside : j < width := by simpa using hj'
    simp only [justify, List.rightpad, List.getElem_map, List.getElem_range]
    rw [List.getElem_append]
    split
    · rename_i found
      have bound : j < text.length := by
        rw [List.length_take] at found
        omega
      simp [List.getElem_take, List.getElem?_eq_getElem bound]
    · rename_i past
      have bound : text.length ≤ j := by
        rw [List.length_take] at past
        omega
      simp [List.getElem?_eq_none bound]

end Text

end CardListing
