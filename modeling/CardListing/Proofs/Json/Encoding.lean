import CardListing.Json.Encoder
import CardListing.Proofs.Json.RoundTrip.Value

/-! What an encoder of compact JSON writes is determined by what it is relied on for: the text
of a declared value is the print of its JSON value. So all that is known of prints holds of
what is encoded.
-/

namespace CardListing

-----------------------------------------------------------------------------------------
-- Prints part by part
-----------------------------------------------------------------------------------------

namespace Json

/-- The name and the value of a member. -/
def memberText (member : Option Text × Json) : Text := quote member.1 ++ ':' :: member.2.print

/-- Texts with commas between them are the first one and the others, each after a comma. By
induction on the others.
-/
theorem intercalate_cons (first : Text) (later : List Text)
    : [','].intercalate (first :: later) = first ++ later.flatMap fun text => ',' :: text := by
  induction later generalizing first with
  | nil => simp [List.intercalate]
  | cons second later ih =>
      rw [List.intercalate, List.intersperse_cons_cons, List.flatten_cons, List.flatten_cons,
        ← List.intercalate, ih, List.flatMap_cons]
      rfl

theorem print_string (content : Text) : (string content).print = quote (some content) := by
  rw [print, string, tokens, ← tokensText, tokensText_cons]
  exact List.append_nil _

theorem print_natural (n : Nat) : (natural n).print = decimalDigits n := by
  rw [print, natural, tokens]
  simp [Token.text, Scalar.text, Number.text, Number.fractionText, Number.exponentText]

theorem tokensText_laterItems (items : List Json)
    : tokensText (laterItems items) = (items.flatMap fun item => ',' :: item.print) ++ [']'] := by
  induction items with
  | nil => rw [laterItems]; rfl
  | cons item later ih =>
      rw [laterItems, tokensText_cons, tokensText_append, ih, List.flatMap_cons, List.append_assoc]
      rfl

theorem tokensText_laterMembers (members : List (Option Text × Json))
    : tokensText (laterMembers members)
      = (members.flatMap fun member => ',' :: memberText member) ++ ['\x7d'] := by
  induction members with
  | nil => rw [laterMembers]; rfl
  | cons member later ih =>
      rw [laterMembers, tokensText_cons, tokensText_cons, tokensText_cons, tokensText_append, ih,
        List.flatMap_cons, memberText]
      simp [Token.text, Scalar.text, print, tokensText]

theorem print_array (items : List Json)
    : (array items).print = '[' :: [','].intercalate (items.map print) ++ [']'] := by
  cases items with
  | nil => rw [print, tokens]; rfl
  | cons item later =>
      have spelled : (array (item :: later)).print
          = '[' :: (item.print ++ tokensText (laterItems later)) := by
        rw [print, tokens, ← tokensText, tokensText_cons, tokensText_append]
        rfl
      rw [spelled, tokensText_laterItems, List.map_cons, intercalate_cons, List.flatMap_map]
      simp

theorem print_object (members : List (Option Text × Json))
    : (object members).print
      = '\x7b' :: [','].intercalate (members.map memberText) ++ ['\x7d'] := by
  cases members with
  | nil => rw [print, tokens]; rfl
  | cons member later =>
      have spelled : (object (member :: later)).print
          = '\x7b' :: (memberText member ++ tokensText (laterMembers later)) := by
        rw [print, tokens, ← tokensText, tokensText_cons, tokensText_cons, tokensText_cons,
          tokensText_append, memberText]
        simp [Token.text, Scalar.text, print, tokensText]
      rw [spelled, tokensText_laterMembers, List.map_cons, intercalate_cons, List.flatMap_map]
      simp

end Json

theorem Declared.itemsToJson_eq_map (items : List Declared)
    : itemsToJson items = items.map toJson := by
  induction items with
  | nil => rw [itemsToJson, List.map_nil]
  | cons item later ih => rw [itemsToJson, ih, List.map_cons]

theorem Declared.fieldsToJson_eq_map (fields : List (String × Declared))
    : fieldsToJson fields = fields.map fun field => (some field.1.toList, field.2.toJson) := by
  induction fields with
  | nil => rw [fieldsToJson, List.map_nil]
  | cons field later ih => rw [fieldsToJson, ih, List.map_cons]

-----------------------------------------------------------------------------------------
-- Encoders of compact JSON
-----------------------------------------------------------------------------------------

namespace Encoder

variable {encoder : Encoder}

/-- Every character is escaped as it is in a print, by the way it is escaped. -/
theorem Compact.escape_eq (compact : encoder.Compact) (c : Char)
    : encoder.escape c = Json.escape c := by
  by_cases quotationMark : c = '"'
  · rw [quotationMark, compact.quotationMark]
    rfl
  by_cases backslash : c = '\\'
  · rw [backslash, compact.backslash]
    rfl
  by_cases backspace : c = '\x08'
  · rw [backspace, compact.backspace]
    rfl
  by_cases tab : c = '\t'
  · rw [tab, compact.tab]
    rfl
  by_cases newline : c = '\n'
  · rw [newline, compact.newline]
    rfl
  by_cases formFeed : c = '\x0c'
  · rw [formFeed, compact.formFeed]
    rfl
  by_cases carriageReturn : c = '\r'
  · rw [carriageReturn, compact.carriageReturn]
    rfl
  rw [Json.escape, if_neg quotationMark, if_neg backslash, if_neg backspace, if_neg tab,
    if_neg newline, if_neg formFeed, if_neg carriageReturn]
  by_cases low : c < ' '
  · rw [if_pos low, compact.control c low (by simp [*])]
  · rw [if_neg low, compact.plain c low quotationMark backslash]

theorem Compact.encode_text (compact : encoder.Compact) (content : Text)
    : encoder.encode (.text content) = Json.quote (some content) := by
  rw [compact.text, funext compact.escape_eq]
  rfl

mutual

/-- What is encoded is the print of the JSON value, by induction on the declared value. -/
theorem Compact.encode_eq (compact : encoder.Compact)
    : (value : Declared) → encoder.encode value = value.toJson.print
  | .number n => by rw [compact.number, Declared.toJson, Json.print_natural]
  | .text content => by rw [compact.encode_text, Declared.toJson, Json.print_string]
  | .absent => by
      rw [compact.absent, Declared.toJson, Json.null, Json.print, Json.tokens]
      rfl
  | .present value => by rw [compact.present, Declared.toJson, compact.encode_eq value]
  | .list items => by
      rw [compact.list, Declared.toJson, Json.print_array, compact.map_encode items]
  | .record fields => by
      rw [compact.record, Declared.toJson, Json.print_object, compact.map_field fields]
  | .choice variant => by
      rw [compact.choice, compact.encode_text, Declared.toJson, Json.print_string]
  | .tagged tag variant fields => by
      have first : encoder.field (tag, .text variant.toList)
          = Json.memberText (some tag.toList, .string variant.toList) := by
        rw [field, compact.encode_text, compact.encode_text, Json.memberText, Json.print_string]
      rw [compact.tagged, compact.record, Declared.toJson, Json.print_object, List.map_cons,
        List.map_cons, first, compact.map_field fields]

theorem Compact.map_encode (compact : encoder.Compact)
    : (items : List Declared)
      → items.map encoder.encode = (Declared.itemsToJson items).map Json.print
  | [] => by rw [Declared.itemsToJson]; rfl
  | item :: later => by
      rw [Declared.itemsToJson, List.map_cons, List.map_cons, compact.encode_eq item,
        compact.map_encode later]

theorem Compact.map_field (compact : encoder.Compact)
    : (fields : List (String × Declared))
      → fields.map encoder.field = (Declared.fieldsToJson fields).map Json.memberText
  | [] => by rw [Declared.fieldsToJson]; rfl
  | (name, value) :: later => by
      rw [Declared.fieldsToJson, List.map_cons, List.map_cons, field, Json.memberText,
        compact.encode_text, compact.encode_eq value, compact.map_field later]

end

/-- Printing the JSON value is encoding that is compact. -/
theorem compact_printing : printing.Compact where
  quotationMark := rfl
  backslash := rfl
  backspace := rfl
  tab := rfl
  newline := rfl
  formFeed := rfl
  carriageReturn := rfl
  control c low other := by
    have apart {d : Char} (high : ¬ d < ' ') : c ≠ d := by
      rintro rfl
      exact high low
    simp only [List.mem_cons, List.not_mem_nil, or_false, not_or] at other
    obtain ⟨backspace, tab, newline, formFeed, carriageReturn⟩ := other
    change Json.escape c = _
    rw [Json.escape, if_neg (apart (by decide)), if_neg (apart (by decide)),
      if_neg backspace, if_neg tab, if_neg newline, if_neg formFeed, if_neg carriageReturn,
      if_pos low]
  plain c high quotationMark backslash := by
    have apart {d : Char} (low : d < ' ') : c ≠ d := by
      rintro rfl
      exact high low
    change Json.escape c = _
    rw [Json.escape, if_neg quotationMark, if_neg backslash,
      if_neg (apart (by decide)), if_neg (apart (by decide)), if_neg (apart (by decide)),
      if_neg (apart (by decide)), if_neg (apart (by decide)), if_neg high]
  number := Json.print_natural
  text := Json.print_string
  absent := rfl
  present _ := rfl
  list items := by
    change (Declared.list items).toJson.print = _
    rw [Declared.toJson, Json.print_array, Declared.itemsToJson_eq_map, List.map_map]
    rfl
  record fields := by
    have texts : Json.memberText ∘ (fun field => (some field.1.toList, field.2.toJson))
        = printing.field := by
      funext field
      exact congrArg (· ++ _) (Json.print_string _).symm
    change (Declared.record fields).toJson.print = _
    rw [Declared.toJson, Json.print_object, Declared.fieldsToJson_eq_map, List.map_map, texts]
  choice _ := rfl
  tagged _ _ _ := rfl

end Encoder

end CardListing
