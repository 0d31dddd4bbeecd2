import CardListing.Deck.Json
import CardListing.Proofs.Json.Encoding
import CardListing.Proofs.Json.Printable

/-! Decks read back from JSON. What a value says about a deck is found by the names of its
members, and what is found in the value of a deck is that deck: the type of every entry, the
columns with and without content, kinds and texts. As what is encoded is read as the value that
was declared, a deck is told by its text.
-/

namespace CardListing

-----------------------------------------------------------------------------------------
-- What a value says
-----------------------------------------------------------------------------------------

namespace Json

/-- The value of the first member with the name, if the value is an object that has one. -/
def member? (name : String) : Json → Option Json
  | object members => (members.find? fun member => member.1 = some name.toList).map Prod.snd
  | _ => none

def items? : Json → Option (List Json)
  | array items => some items
  | _ => none

def text? : Json → Option Text
  | scalar (.string text) => text
  | _ => none

/-- What a value says about the content of a column: null that there is none. -/
def content? : Json → Option (Option Text)
  | scalar .null => some none
  | scalar (.string (some text)) => some (some text)
  | _ => none

/-- What an object says about the content of the column with the field's name. -/
def column? (field : CardField) (json : Json) : Option (Option Text) :=
  (json.member? field.name).bind content?

/-- The contents of some columns, if the value tells all of them. -/
def contents? (fields : List CardField) (json : Json) : Option (CardField → Option Text) :=
  if fields.all fun field => (json.column? field).isSome then
    some fun field => (json.column? field).join
  else
    none

end Json

def Record.ofJson? (json : Json) : Option Record :=
  (json.contents? CardField.all).map Record.ofFn

def Row.ofJson? (json : Json) : Option Row :=
  (json.contents? Row.fields).map fun contents => Row.ofRecord (Record.ofFn contents)

def Statement.ofJson? (json : Json) : Option Statement := do
  let primary ← (json.member? "primary").bind Record.ofJson?
  let rows ← (json.member? "continuations").bind Json.items?
  return ⟨primary, ← rows.mapM Row.ofJson?⟩

def Directive.Kind.ofName? (name : Text) : Option Directive.Kind :=
  [title, remark, pageHeader].find? fun kind => kind.name.toList = name

def Directive.ofJson? (json : Json) : Option Directive := do
  let kind ← (json.member? "kind").bind Json.text?
  let text ← (json.member? "text").bind Json.text?
  return ⟨← Directive.Kind.ofName? kind, text⟩

/-- The entry that a value describes, by the type that the value names. -/
def Entry.ofJson? (json : Json) : Option Entry := do
  let type ← (json.member? "type").bind Json.text?
  if type = "statement".toList then
    (Statement.ofJson? json).map .statement
  else if type = "directive".toList then
    (Directive.ofJson? json).map .directive
  else
    none

def Deck.ofJson? (json : Json) : Option Deck := do
  let items ← (json.member? "entries").bind Json.items?
  return ⟨← items.mapM Entry.ofJson?⟩

-----------------------------------------------------------------------------------------
-- What the value of a deck says
-----------------------------------------------------------------------------------------

theorem CardField.name_injective {left right : CardField} (h : left.name = right.name)
    : left = right := by
  have found := left.ofName?_name
  rw [h, right.ofName?_name] at found
  exact (Option.some.inj found).symm

namespace Json

theorem member?_record (fields : List (String × Declared)) (name : String)
    : (Declared.record fields).toJson.member? name
      = (fields.find? fun field => field.1 = name).map fun field => field.2.toJson := by
  rw [Declared.toJson, Declared.fieldsToJson_eq_map, member?, List.find?_map, Option.map_map]
  simp only [Function.comp_def, Option.some.injEq, String.toList_inj]

theorem member?_tagged (tag variant : String) (fields : List (String × Declared))
    (name : String)
    : (Declared.tagged tag variant fields).toJson.member? name
      = if tag = name then some (string variant.toList)
        else (Declared.record fields).toJson.member? name := by
  rw [Declared.toJson, Declared.toJson, member?, member?, List.find?_cons]
  by_cases same : tag = name <;> simp [same, String.toList_inj]

theorem items?_list (items : List Declared)
    : (Declared.list items).toJson.items? = some (items.map Declared.toJson) := by
  rw [Declared.toJson, Declared.itemsToJson_eq_map, items?]

theorem text?_text (content : Text) : (Declared.text content).toJson.text? = some content := rfl

theorem text?_choice (variant : String)
    : (Declared.choice variant).toJson.text? = some variant.toList := rfl

theorem content?_ofContent (content : Option Text)
    : (Declared.ofContent content).toJson.content? = some content := by
  cases content <;> rfl

variable (fields : List CardField) (content : CardField → Option Text)

/-- Among columns, one is found by its name, since names are different. By list induction. -/
theorem column?_ofContents (field : CardField)
    : (Declared.record (Declared.ofContents (fields.map fun f => (f, content f)))).toJson.column?
        field
      = if field ∈ fields then some (content field) else none := by
  rw [column?, member?_record, Declared.ofContents]
  induction fields with
  | nil => rfl
  | cons first later ih =>
      rw [List.map_cons, List.map_cons, List.find?_cons]
      by_cases same : first = field
      · subst same
        simp [content?_ofContent]
      · have other : ¬ first.name = field.name := fun named => same (CardField.name_injective named)
        have ne : ¬ field = first := fun named => same named.symm
        simpa [other, ne] using ih

variable {fields content}

/-- The contents of columns are read back from their object. -/
theorem contents?_ofContents (outside : ∀ field, field ∉ fields → content field = none)
    : (Declared.record (Declared.ofContents (fields.map fun f => (f, content f)))).toJson.contents?
        fields
      = some content := by
  rw [contents?, if_pos]
  · refine congrArg some (funext fun field => ?_)
    rw [column?_ofContents]
    by_cases among : field ∈ fields
    · rw [if_pos among, Option.join_some]
    · rw [if_neg among, outside field among]
      rfl
  · refine List.all_eq_true.mpr fun field among => ?_
    rw [column?_ofContents, if_pos among, Option.isSome_some]

/-- A list is read back if each of its items is. -/
theorem mapM_map_of_inverse {α : Type} {write : α → Json} {read : Json → Option α}
    (h : ∀ x, read (write x) = some x) (xs : List α)
    : (xs.map write).mapM read = some xs := by
  have inverse : read ∘ write = fun x => pure (id x) := funext h
  rw [List.mapM_map, inverse, List.mapM_pure, List.map_id]
  rfl

end Json

theorem Record.ofJson?_declared (record : Record)
    : ofJson? record.declared.toJson = some record := by
  have told : record.declared.toJson.contents? CardField.all = some record.get :=
    Json.contents?_ofContents fun field outside => (outside field.mem_all).elim
  rw [ofJson?, told, Option.map_some, ofFn_get]

theorem Row.ofJson?_declared (row : Row) : ofJson? row.declared.toJson = some row := by
  have told : row.declared.toJson.contents? Row.fields = some row.toRecord.get := by
    refine Json.contents?_ofContents fun field outside => ?_
    cases field <;> first | rfl | exact (outside (by decide)).elim
  rw [ofJson?, told, Option.map_some, Record.ofFn_get, ofRecord_toRecord]

theorem Statement.ofJson?_declared (s : Statement)
    : ofJson? (Entry.statement s).declared.toJson = some s := by
  have rows := Json.mapM_map_of_inverse Row.ofJson?_declared s.continuations
  simp [ofJson?, Entry.declared, declaredFields, Json.member?_tagged, Json.member?_record,
    Json.items?_list, Record.ofJson?_declared, List.map_map, Function.comp_def, rows]

theorem Directive.Kind.ofName?_name (kind : Directive.Kind)
    : ofName? kind.name.toList = some kind := by
  cases kind <;> decide

theorem Directive.ofJson?_declared (d : Directive)
    : ofJson? (Entry.directive d).declared.toJson = some d := by
  simp [ofJson?, Entry.declared, declaredFields, Json.member?_tagged, Json.member?_record,
    Json.text?_choice, Json.text?_text, Kind.ofName?_name]

/-- An entry is read back by the type that its value names. -/
theorem Entry.ofJson?_declared (entry : Entry) : ofJson? entry.declared.toJson = some entry := by
  cases entry with
  | statement s =>
      have type : ((statement s).declared.toJson.member? "type").bind Json.text?
          = some "statement".toList := rfl
      rw [ofJson?, type, Option.bind_eq_bind, Option.bind_some, if_pos rfl,
        Statement.ofJson?_declared, Option.map_some]
  | directive d =>
      have type : ((directive d).declared.toJson.member? "type").bind Json.text?
          = some "directive".toList := rfl
      have other : ¬ "directive".toList = "statement".toList := by decide
      rw [ofJson?, type, Option.bind_eq_bind, Option.bind_some, if_neg other, if_pos rfl,
        Directive.ofJson?_declared, Option.map_some]

namespace Deck

theorem ofJson?_declared (deck : Deck) : ofJson? deck.declared.toJson = some deck := by
  have read := Json.mapM_map_of_inverse Entry.ofJson?_declared deck.entries
  simp [ofJson?, declared, Json.member?_record, Json.items?_list, List.map_map,
    Function.comp_def, read]

/-- Whatever encoder writes it, as long as it writes compact JSON, a deck is read back from its
text; so the decks of two texts have the same JSON text only if they are the same deck. No JSON
text of a deck holds a control character.
-/
theorem encode_lossless (encoder : Encoder) (compact : encoder.Compact)
    : (∀ deck : Deck,
        (Json.read? (encoder.encode deck.declared)).bind ofJson? = some deck)
      ∧ (∀ first second : Text,
        encoder.encode (ofText first).declared = encoder.encode (ofText second).declared
        ↔ ofText first = ofText second)
      ∧ ∀ deck : Deck, ∀ c ∈ encoder.encode deck.declared, 32 ≤ c.toNat := by
  have readBack (deck : Deck)
      : (Json.read? (encoder.encode deck.declared)).bind ofJson? = some deck := by
    rw [compact.encode_eq, Json.read?_print, Option.bind_some, ofJson?_declared]
  refine ⟨readBack, fun first second => ⟨?_, ?_⟩, fun deck => ?_⟩
  · intro same
    have found := readBack (ofText first)
    rw [same, readBack] at found
    exact (Option.some.inj found).symm
  · intro same
    rw [same]
  · rw [compact.encode_eq]
    exact deck.declared.toJson.le_of_mem_print

/-- A page header of a quotation mark, a backslash and a control, whose text has no control.
-/
theorem encode_lossless_escapes
    : Encoder.printing.Compact
      ∧ Encoder.printing.encode (ofText "       P\"\\\x1b".toList).declared
        = "\x7b\"entries\":[\x7b\"type\":\"directive\",\"kind\":\"PageHeader\",".toList
          ++ "\"text\":\"\\\"\\\\\\u001b\"\x7d]\x7d".toList
      ∧ (Json.read? (Encoder.printing.encode (ofText "       P\"\\\x1b".toList).declared)).bind
          ofJson?
        = some (ofText "       P\"\\\x1b".toList)
      ∧ ∀ c ∈ Encoder.printing.encode (ofText "       P\"\\\x1b".toList).declared,
        32 ≤ c.toNat := by
  have lossless := encode_lossless Encoder.printing Encoder.compact_printing
  exact ⟨Encoder.compact_printing, by decide +kernel, lossless.1 _, lossless.2.2 _⟩

end Deck

end CardListing
