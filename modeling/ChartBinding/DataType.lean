import ChartBinding.Json.Reader
import ChartBinding.Calendar.Stamp

/-!
# Data types and their inference

A field of a data set has a primitive type, which is inferred from its values, and a measurement
type, which says how it may be encoded. Each primitive type but the last has a test on single
values, and a column has the first type whose test all its values pass, nulls apart.
-/

namespace ChartBinding

/-! ## The types -/

inductive Measure where
  | nominal
  | ordinal
  | quantitative
  | temporal
deriving DecidableEq

namespace Measure

def all : List Measure := [nominal, ordinal, quantitative, temporal]

def name : Measure → String
  | nominal => "nominal"
  | ordinal => "ordinal"
  | quantitative => "quantitative"
  | temporal => "temporal"

def read : Reader Measure := Json.readChoice all name

def write (m : Measure) : Json := .str m.name

/-- The measurement types that are offered when the inferred one is to be changed. -/
def offered : List Measure := [nominal, quantitative, temporal]

end Measure

inductive DataType where
  | boolean
  | integer
  | number
  | date
  | string
deriving DecidableEq

namespace DataType

def all : List DataType := [boolean, integer, number, date, string]

def name : DataType → String
  | boolean => "boolean"
  | integer => "integer"
  | number => "number"
  | date => "date"
  | string => "string"

def read : Reader DataType := Json.readChoice all name

def write (t : DataType) : Json := .str t.name

/-- The measurement type that values of a primitive type suggest. -/
def measure : DataType → Measure
  | boolean => .nominal
  | integer => .quantitative
  | number => .quantitative
  | date => .temporal
  | string => .nominal

end DataType

/-! ## Tests on single values -/

namespace Json

/-- A truth value, or the text of one. -/
def isBooleanLike : Json → Bool
  | .bool _ => true
  | .str s => s == "true" || s == "false"
  | _ => false

/-- What a number-like value amounts to. -/
inductive Amount where
  | finite (x : Double)
  | infinite

/-- The amount of an integer; one beyond all doubles counts as infinite. -/
def Amount.ofInt (i : Int) : Amount :=
  match Double.ofInt? i with
  | some x => .finite x
  | none => .infinite

def infinityNames : List (List Char) := ["Infinity", "+Infinity", "-Infinity"].map String.toList

/-- The amount that a text spells, white space at its ends apart: infinity by name, or a numeral
that does not exceed the greatest double. -/
def spelledAmount? (s : String) : Option Amount :=
  let cs := Text.trim s.toList
  if cs ∈ infinityNames then some .infinite
  else (Numeral.ofChars? cs).bind fun n => n.double?.map .finite

/-- The amount that a value is or spells. -/
def amount? : Json → Option Amount
  | .int i => some (Amount.ofInt i)
  | .float x => some (.finite x)
  | .str s => spelledAmount? s
  | _ => none

def isNumberLike (v : Json) : Bool := v.amount?.isSome

/-- A number that is whole and fits 32 bits with sign. -/
def isIntegerLike (v : Json) : Bool :=
  match v.amount? with
  | some (.finite x) => x.isWholeBetween (-0x80000000) 0x7fffffff
  | _ => false

/-- A number, which is taken as a time stamp or a year, or the text of a date. -/
def isDateLike : Json → Bool
  | .int _ => true
  | .float _ => true
  | .str s => (spelledAmount? s).isSome || Calendar.isDateText s
  | _ => false

end Json

/-! ## Inference -/

namespace DataType

/-- Whether a value may stand in a column of the type. Every value may stand in a string column. -/
def admits : DataType → Json → Bool
  | boolean, v => v.isBooleanLike
  | integer, v => v.isIntegerLike
  | number, v => v.isNumberLike
  | date, v => v.isDateLike
  | string, _ => true

/-- The types that are tried, in order of preference. -/
def candidates : List DataType := [boolean, integer, number, date]

/-- The types that are left of some types after every value has struck those out that do not admit
it. The search is given up, with no list, at the first value that leaves none. -/
def remaining : List DataType → List Json → Option (List DataType)
  | types, [] => some types
  | types, v :: rest =>
    if v.isNull then remaining types rest
    else
      match types.filter fun t => t.admits v with
      | [] => none
      | types => remaining types rest

/-- A search that is not given up has a type left. -/
theorem remaining_ne_nil {types left : List DataType} {values : List Json} (some_type : types ≠ [])
    (remains : remaining types values = some left) : left ≠ [] := by
  induction values generalizing types with
  | nil =>
      cases remains
      exact some_type
  | cons v rest ih =>
      simp only [remaining] at remains
      split at remains
      · exact ih some_type remains
      · split at remains
        · cases remains
        · next some_kept => exact ih some_kept remains

/-- The type of a column of values: the first that is left, and `string` where none is. -/
def infer (values : List Json) : DataType :=
  match remains : remaining candidates values with
  | none => string
  | some left => left.head (remaining_ne_nil (List.cons_ne_nil _ _) remains)

/-- The values of a field in the rows that have it. -/
def column (field : String) (rows : List Json) : List Json := rows.filterMap (Json.get? field)

/-- The fields of the first row, each once, in its order. -/
def fieldsOf : List Json → List String
  | .obj first :: _ => (first.map (·.1)).eraseDups
  | _ => []

/-- The type of every field of the first row, in its order. -/
def inferAll (rows : List Json) : List (String × DataType) :=
  (fieldsOf rows).map fun field => (field, infer (column field rows))

end DataType

end ChartBinding
