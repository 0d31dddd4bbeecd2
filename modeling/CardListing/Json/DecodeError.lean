import CardListing.Json.NumberValue
import CardListing.Json.Token
import CardListing.Text.Quoted
import CardListing.Word.Basic

/-!
Why a JSON text is not the encoding of a domain value.
-/

namespace CardListing

namespace Json

/-- What was found where something else was expected. -/
inductive Found where
  | null
  | bool (value : Bool)
  | integer (n : Int)
  | float (x : Double)
  | string (text : Text)
  | array
  | object
deriving DecidableEq, Repr

/-- What a place in a value can be expected to hold. -/
inductive Expectation where
  /-- The value of a group: an integer of 16 bits. -/
  | part
  /-- A word: its four groups by name or in order. -/
  | word
  /-- Nothing: the null value. -/
  | nothing
deriving DecidableEq, Repr

inductive DecodeError where
  /-- The text cannot be understood: it is not JSON, a string has half a surrogate pair, a
  number is out of range, or the form is one that no encoding has. -/
  | malformed
  | wrongType (found : Found) (expected : Expectation)
  | outOfRange (n : Int) (expected : Expectation)
  | duplicateMember (name : String)
  | missingMember (name : String)
  | wrongLength (length : Nat)
  | unknownName (name : Text) (known : List String)
  | refused (error : Word.Refusal)
deriving DecidableEq, Repr

/-- What a value without parts is found to be, if it can be understood. -/
def Scalar.found? : Scalar → Option Found
  | null => some .null
  | bool value => some (.bool value)
  | number n =>
    n.value?.map fun value =>
      match value with
      | .integer n => .integer n
      | .float x => .float x
  | string text => text.map .string

/-- What a value is found to be, if it can be understood. -/
def found? : Json → Option Found
  | scalar s => s.found?
  | array _ => some .array
  | object _ => some .object

/-- What a value is found to be by its first token, if it can be understood. -/
def Token.found? : Token → Option Found
  | scalar s => s.found?
  | openBracket => some .array
  | openBrace => some .object
  | _ => none

/-- The failure where something of the wrong type is found. -/
def DecodeError.mismatch (expected : Expectation) : Option Found → DecodeError
  | none => .malformed
  | some found => .wrongType found expected

def Found.describe : Found → String
  | null => "null"
  | bool true => "boolean `true`"
  | bool false => "boolean `false`"
  | integer n => "integer `" ++ toString n ++ "`"
  | float x => "floating point `" ++ String.ofList (messageLayout.writeDouble x) ++ "`"
  | string text => "string " ++ String.ofList (Text.quoted text)
  | array => "sequence"
  | object => "map"

def Expectation.describe : Expectation → String
  | part => "u16"
  | word => "struct WordDef"
  | nothing => "unit"

namespace DecodeError

/-- The wording of a failure; a text that cannot be understood has none. -/
def message? : DecodeError → Option String
  | malformed => none
  | wrongType found expected =>
    some ("invalid type: " ++ found.describe ++ ", expected " ++ expected.describe)
  | outOfRange n expected =>
    some ("invalid value: " ++ (Found.integer n).describe ++ ", expected "
      ++ expected.describe)
  | duplicateMember name => some ("duplicate field `" ++ name ++ "`")
  | missingMember name => some ("missing field `" ++ name ++ "`")
  | wrongLength length =>
    some ("invalid length " ++ toString length
      ++ ", expected struct WordDef with 4 elements")
  | unknownName name known =>
    some ("unknown variant `" ++ String.ofList name ++ "`, expected one of "
      ++ ", ".intercalate (known.map fun k => "`" ++ k ++ "`"))
  | refused error => some error.message

end DecodeError

end Json

end CardListing
