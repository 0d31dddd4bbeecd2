import CardListing.Proofs.Word.OctalGroups
import Mathlib.Data.List.DropRight

/-! Words in octal in every style. A numeral keeps its digits whatever the style asks for: sign and
mark go before them, a field that is wider is filled up around the whole or by zeros between the
mark and the digits, and one that is narrower changes nothing. What is added can be taken away
again.
-/

namespace CardListing

-----------------------------------------------------------------------------------------
-- Numerals in their field
-----------------------------------------------------------------------------------------

/-- How many of the free places of a field are before a text. -/
def Alignment.before : Alignment → Nat → Nat
  | left, _ => 0
  | right, free => free
  | center, free => free / 2

/-- Padding shares the free places out before and behind the text. -/
theorem Alignment.pad_eq (alignment : Alignment) (width : Nat) (fill : Char) (text : Text)
    : ∃ behind,
        alignment.before (width - text.length) + behind = width - text.length
        ∧ alignment.pad width fill text
          = List.replicate (alignment.before (width - text.length)) fill ++ text
            ++ List.replicate behind fill := by
  refine ⟨(width - text.length) - alignment.before (width - text.length), ?_, ?_⟩
  · cases alignment <;> simp only [before] <;> omega
  · cases alignment <;> simp [before, pad, centered, List.leftpad, List.rightpad]

/-- A text whose characters are not the fill is found again between fill characters. -/
theorem rdropWhile_dropWhile_fill {fill : Char} {text : Text} (apart : fill ∉ text)
    (before behind : Nat)
    : ((List.replicate before fill ++ text ++ List.replicate behind fill).dropWhile
        (· == fill)).rdropWhile (· == fill)
      = text := by
  have gone (count : Nat) (rest : Text)
      : (List.replicate count fill ++ rest).dropWhile (· == fill) = rest.dropWhile (· == fill) :=
    List.dropWhile_append_of_pos (by simp)
  rw [List.append_assoc, gone]
  cases text with
  | nil =>
      have all := gone behind []
      rw [List.append_nil] at all
      rw [List.nil_append, all]
      rfl
  | cons c rest =>
      have first : ¬ (c == fill) = true := by
        simpa using fun same : c = fill => apart (same ▸ List.mem_cons_self)
      have kept : (c :: rest).reverse.dropWhile (· == fill) = (c :: rest).reverse := by
        refine List.dropWhile_eq_self_iff.mpr fun nonempty same => apart ?_
        rw [← List.mem_reverse, ← beq_iff_eq.mp same]
        exact List.get_mem _ _
      rw [List.cons_append, List.dropWhile_cons, if_neg first, ← List.cons_append,
        List.rdropWhile, List.reverse_append, List.reverse_replicate, gone, kept,
        List.reverse_reverse]

namespace NumeralStyle

variable (style : NumeralStyle) (mark digits : Text)

theorem write_of_zeros (h : style.zeros = true)
    : style.write mark digits
      = style.lead mark
        ++ (List.replicate (style.width - (style.lead mark).length - digits.length) '0'
          ++ digits) := by
  rw [write, if_pos h, List.leftpad]

theorem write_of_not_zeros (h : style.zeros = false)
    : style.write mark digits
      = style.alignment.pad style.width style.fill (style.lead mark ++ digits) := by
  rw [write, if_neg (by simp [h])]

/-- A numeral fills its field, or is as long as it is without one. -/
theorem length_write
    : (style.write mark digits).length
      = max style.width ((style.lead mark).length + digits.length) := by
  cases h : style.zeros with
  | true =>
      rw [write_of_zeros _ _ _ h]
      simp only [List.length_append, List.length_replicate]
      omega
  | false => rw [write_of_not_zeros _ _ _ h, Alignment.length_pad, List.length_append]

/-- No digit is ever cut off. -/
theorem digits_infix_write : digits <:+: style.write mark digits := by
  cases h : style.zeros with
  | true =>
      rw [write_of_zeros _ _ _ h, ← List.append_assoc]
      exact (List.suffix_append _ _).isInfix
  | false =>
      obtain ⟨behind, _, padded⟩ :=
        style.alignment.pad_eq style.width style.fill (style.lead mark ++ digits)
      rw [write_of_not_zeros _ _ _ h, padded, ← List.append_assoc]
      exact List.infix_append _ _ _

/-- The digits of a numeral in its field: without the fill around it, its sign and its mark. -/
def bare (text : Text) : Text :=
  let inner :=
    if style.zeros then text
    else (text.dropWhile (· == style.fill)).rdropWhile (· == style.fill)
  inner.drop (style.lead mark).length

/-- The digits that are left are those written, behind the zeros that fill the field. -/
theorem bare_write (apart : style.fill ∉ style.lead mark ++ digits)
    : ∃ zeros,
        style.bare mark (style.write mark digits) = List.replicate zeros '0' ++ digits := by
  cases h : style.zeros with
  | true =>
      refine ⟨style.width - (style.lead mark).length - digits.length, ?_⟩
      rw [write_of_zeros _ _ _ h, bare, if_pos h, List.drop_left]
  | false =>
      obtain ⟨behind, _, padded⟩ :=
        style.alignment.pad_eq style.width style.fill (style.lead mark ++ digits)
      refine ⟨0, ?_⟩
      rw [write_of_not_zeros _ _ _ h, padded, bare, if_neg (by simp [h]),
        rdropWhile_dropWhile_fill apart, List.drop_left]
      rfl

end NumeralStyle

namespace Word

-----------------------------------------------------------------------------------------
-- Words
-----------------------------------------------------------------------------------------

/-- How a word is written in octal with one flag or in a field of some width, by its digits. -/
structure StyledBy (word : Word) (digits : Text) (width : Nat) : Prop where
  marked : word.octal { mark := true } = ['0', 'o'] ++ digits
  signed : word.octal { plus := true } = ['+'] ++ digits
  right : word.octal { width } = List.replicate (width - digits.length) ' ' ++ digits
  left
    : word.octal { width, alignment := .left }
      = digits ++ List.replicate (width - digits.length) ' '
  center
    : word.octal { width, alignment := .center, fill := '*' }
      = List.replicate ((width - digits.length) / 2) '*' ++ digits
        ++ List.replicate ((width - digits.length + 1) / 2) '*'
  zeros
    : word.octal { width, zeros := true }
      = List.replicate (width - digits.length) '0' ++ digits
  markedZeros
    : word.octal { width, zeros := true, mark := true }
      = ['0', 'o'] ++ List.replicate (width - 2 - digits.length) '0' ++ digits

variable (word : Word)

theorem octal_eq_write (style : NumeralStyle)
    : word.octal style = style.write ['0', 'o'] (word.octal {}) := by
  rw [octal_plain]
  rfl

theorem styledBy_octal_plain (width : Nat) : word.StyledBy (word.octal {}) width := by
  generalize plain : word.octal {} = digits
  have written (style : NumeralStyle) : word.octal style = style.write ['0', 'o'] digits := by
    rw [← plain, octal_eq_write]
  constructor
  · simp [written, NumeralStyle.write, NumeralStyle.lead, Alignment.pad, List.leftpad]
  · simp [written, NumeralStyle.write, NumeralStyle.lead, Alignment.pad, List.leftpad]
  · simp [written, NumeralStyle.write, NumeralStyle.lead, Alignment.pad, List.leftpad]
  · simp [written, NumeralStyle.write, NumeralStyle.lead, Alignment.pad, List.rightpad]
  · have odd : width - digits.length - (width - digits.length) / 2
        = (width - digits.length + 1) / 2 := by
      omega
    simp [written, NumeralStyle.write, NumeralStyle.lead, Alignment.pad, centered, odd]
  · simp [written, NumeralStyle.write, NumeralStyle.lead, List.leftpad]
  · simp [written, NumeralStyle.write, NumeralStyle.lead, List.leftpad]

theorem length_octal (style : NumeralStyle)
    : (word.octal style).length
      = max style.width (word.octal { style with width := 0 }).length := by
  rw [octal_eq_write, octal_eq_write word { style with width := 0 }, NumeralStyle.length_write,
    NumeralStyle.length_write, Nat.zero_max]
  rfl

/-- Taking away fill, sign and mark leaves the value, if the fill is none of the characters that a
numeral can have.
-/
theorem readOctal_bare_octal {style : NumeralStyle} (digit : ¬ IsOctalDigit style.fill)
    (plus : style.fill ≠ '+') (letter : style.fill ≠ 'o')
    : readOctal (style.bare ['0', 'o'] (word.octal style)) = word.value.toNat := by
  have numeral := isOctalNumeral_octalDigits word.value.toNat
  have apart : style.fill ∉ style.lead ['0', 'o'] ++ word.octal {} := by
    intro among
    rw [octal_plain] at among
    rcases List.mem_append.mp among with lead | other
    · have zero : style.fill ≠ '0' := fun same => digit (same ▸ isOctalDigit_zero)
      rw [NumeralStyle.lead] at lead
      cases hplus : style.plus <;> cases hmark : style.mark <;> simp_all
    · exact digit (numeral.digits _ other)
  obtain ⟨zeros, left⟩ := style.bare_write ['0', 'o'] (word.octal {}) apart
  rw [octal_eq_write, left, readOctal_replicate_zero_append, octal_plain, numeral.reads]

/-- A word in octal is the numeral of its value, at most sixteen digits. A mark or a plus sign goes
before it; a field of any width is filled up by blanks before or behind it, by stars around it of
which an odd one goes behind it, or by zeros before it that follow the mark. In every style the
field is filled or has no room for more than the numeral, of which no digit is lost, and what
is left without fill, sign and mark spells the value. The grouped form is the same in all
styles.
-/
theorem octal_respects_style
    : IsOctalNumeral (word.octal {}) word.value.toNat
      ∧ (word.octal {}).length ≤ 16
      ∧ (∀ width, word.StyledBy (word.octal {}) width)
      ∧ (∀ style,
        (word.octal style).length = max style.width (word.octal { style with width := 0 }).length
        ∧ word.octal {} <:+: word.octal style
        ∧ word.write style .grouped = word.display)
      ∧ ∀ style : NumeralStyle,
        ¬ IsOctalDigit style.fill
        → style.fill ≠ '+'
        → style.fill ≠ 'o'
        → readOctal (style.bare ['0', 'o'] (word.octal style)) = word.value.toNat := by
  refine ⟨?_, ?_, word.styledBy_octal_plain, fun style => ⟨word.length_octal style, ?_, rfl⟩,
    fun style => word.readOctal_bare_octal⟩
  · rw [octal_plain]
    exact isOctalNumeral_octalDigits _
  · rw [octal_plain]
    exact length_octalDigits_le (by decide) word.toNat_value_lt
  · rw [octal_eq_write word style]
    exact style.digits_infix_write _ _

/-- Sign and mark between stars that are of odd number. -/
theorem octal_respects_style_stars
    : ¬ IsOctalDigit '*'
      ∧ octal ⟨⟨⟨0, by decide⟩, ⟨0, by decide⟩, ⟨1, by decide⟩, ⟨2, by decide⟩⟩⟩
          { width := 21, alignment := .center, fill := '*', plus := true, mark := true }
        = "******+0o10002*******".toList
      ∧ readOctal
          (NumeralStyle.bare
            { width := 21, alignment := .center, fill := '*', plus := true, mark := true }
            ['0', 'o'] "******+0o10002*******".toList)
        = 4098 := by
  have star : ¬ IsOctalDigit '*' := by
    rintro ⟨d, small, same⟩
    revert d
    decide
  have written : octal ⟨⟨⟨0, by decide⟩, ⟨0, by decide⟩, ⟨1, by decide⟩, ⟨2, by decide⟩⟩⟩
      { width := 21, alignment := .center, fill := '*', plus := true, mark := true }
      = "******+0o10002*******".toList := rfl
  refine ⟨star, written, ?_⟩
  rw [← written]
  exact (octal_respects_style _).2.2.2.2 _ star (by decide) (by decide)

end Word

end CardListing
