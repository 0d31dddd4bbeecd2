import CardListing.Json.Declared
import CardListing.Json.Printer

/-!
Encoders write declared values as text. Which encoder is at work is left open; what is relied
on is that it writes compact JSON, that is without white space, and escapes in strings what
has to be escaped.
-/

namespace CardListing

structure Encoder where
  /-- A character within a string. -/
  escape : Char → Text
  encode : Declared → Text

namespace Encoder

/-- The name and the value of a field. -/
def field (encoder : Encoder) (field : String × Declared) : Text :=
  encoder.encode (.text field.1.toList) ++ ':' :: encoder.encode field.2

/-- The encoder writes compact JSON. Of the controls five are escaped by a letter and all
others by their number. Absent values are null, present ones are written as themselves;
variants are strings, and a tag is a field before those of the content. -/
structure Compact (encoder : Encoder) : Prop where
  quotationMark : encoder.escape '"' = ['\\', '"']
  backslash : encoder.escape '\\' = ['\\', '\\']
  backspace : encoder.escape '\x08' = ['\\', 'b']
  tab : encoder.escape '\t' = ['\\', 't']
  newline : encoder.escape '\n' = ['\\', 'n']
  formFeed : encoder.escape '\x0c' = ['\\', 'f']
  carriageReturn : encoder.escape '\r' = ['\\', 'r']
  control
    : ∀ c,
        c < ' '
        → c ∉ ['\x08', '\t', '\n', '\x0c', '\r']
        → encoder.escape c
          = ['\\', 'u', '0', '0', Json.hexDigit (c.toNat / 16), Json.hexDigit (c.toNat % 16)]
  plain : ∀ c, ¬ c < ' ' → c ≠ '"' → c ≠ '\\' → encoder.escape c = [c]
  number : ∀ n, encoder.encode (.number n) = decimalDigits n
  text
    : ∀ content,
        encoder.encode (.text content) = '"' :: content.flatMap encoder.escape ++ ['"']
  absent : encoder.encode .absent = "null".toList
  present : ∀ value, encoder.encode (.present value) = encoder.encode value
  list
    : ∀ items,
        encoder.encode (.list items)
        = '[' :: [','].intercalate (items.map encoder.encode) ++ [']']
  record
    : ∀ fields,
        encoder.encode (.record fields)
        = '\x7b' :: [','].intercalate (fields.map encoder.field) ++ ['\x7d']
  choice : ∀ variant, encoder.encode (.choice variant) = encoder.encode (.text variant.toList)
  tagged
    : ∀ tag variant fields,
        encoder.encode (.tagged tag variant fields)
        = encoder.encode (.record ((tag, .text variant.toList) :: fields))

/-- The encoder that prints the JSON value. -/
def printing : Encoder where
  escape := Json.escape
  encode value := value.toJson.print

end Encoder

end CardListing
