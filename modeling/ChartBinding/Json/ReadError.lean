import ChartBinding.Json.Number
import ChartBinding.Text.Place
import ChartBinding.Text.Quoted

/-!
# What can be wrong with a value that is read

The causes for which a JSON value does not read as a typed value, and their wording.
-/

namespace ChartBinding

/-- Why a JSON value does not read as the wanted type. -/
inductive ReadError where
  /-- The value is of another kind than the one wanted. -/
  | wrongKind (got : Json) (want : String)
  /-- The integer is not in the wanted range. -/
  | outOfRange (got : Int) (want : String)
  /-- A required field is absent. -/
  | missing (field : String)
  /-- A field is given under two of its names. -/
  | repeated (field : String)
  /-- The text names none of the known choices. -/
  | unknownChoice (got : String) (known : List String)
  /-- An object that should name one choice has not exactly one member. -/
  | notOneChoice
  /-- A value given by position ends before the part at the index. -/
  | tooShort (index : Nat) (want : String)
  /-- A sequence given by position has more elements than the wanted value has parts. -/
  | tooLong (length : Nat)
  /-- None of the alternatives of the type reads the value. -/
  | noAlternative (title : String)
  /-- The name of a member should be a numeral and is none. -/
  | notNumeral
  /-- The name of a member begins as a numeral and goes wrong. -/
  | badNumber (fault : NumberFault)
  /-- The error has been found at the place. -/
  | placed (place : Place) (e : ReadError)

def Json.described : Json → String
  | .null => "null"
  | .bool b => "boolean `" ++ (if b then "true" else "false") ++ "`"
  | .int i => "integer `" ++ toString i ++ "`"
  | .float x => "floating point `" ++ x.text ++ "`"
  | .str s => "string " ++ Text.quoted s
  | .arr _ => "sequence"
  | .obj _ => "map"

namespace ReadError

def choiceList (known : List String) : String :=
  ", ".intercalate (known.map fun s => "`" ++ s ++ "`")

def message : ReadError → String
  | .wrongKind got want => "invalid type: " ++ got.described ++ ", expected " ++ want
  | .outOfRange got want => "invalid value: integer `" ++ toString got ++ "`, expected " ++ want
  | .missing field => "missing field `" ++ field ++ "`"
  | .repeated field => "duplicate field `" ++ field ++ "`"
  | .unknownChoice got known =>
    "unknown variant `" ++ got ++ "`, expected one of " ++ choiceList known
  | .notOneChoice => "invalid value: map, expected map with a single key"
  | .tooShort index want => "invalid length " ++ toString index ++ ", expected " ++ want
  | .tooLong length =>
    "invalid length " ++ toString length ++ ", expected fewer elements in array"
  | .noAlternative title => "data did not match any variant of untagged enum " ++ title
  | .notNumeral => "invalid value: expected key to be a number in quotes"
  | .badNumber fault => fault.message
  | .placed place e => e.message ++ " at " ++ place.text

end ReadError

end ChartBinding
