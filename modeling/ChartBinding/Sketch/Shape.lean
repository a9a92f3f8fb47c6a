import ChartBinding.Failure
import ChartBinding.Json.Reader

/-!
# Mark shapes

A sketch draws one of five shapes. The marks of a low-level chart have types of their own, and not
every type has a shape.
-/

namespace ChartBinding

/-- What a sketch draws for each row. -/
inductive Shape where
  | bar
  | point
  | text
  | line
  | area
deriving DecidableEq

namespace Shape

def all : List Shape := [bar, point, text, line, area]

def name : Shape → String
  | bar => "bar"
  | point => "point"
  | text => "text"
  | line => "line"
  | area => "area"

def title : Shape → String
  | bar => "Bar"
  | point => "Point"
  | text => "Text"
  | line => "Line"
  | area => "Area"

def read : Reader Shape := Json.readChoice all name

def write (s : Shape) : Json := .str s.name

/-- The type of the marks that a shape is drawn with. -/
def markType : Shape → String
  | bar => "rect"
  | point => "symbol"
  | s => s.name

def ofMarkType? (type : String) : Option Shape := all.find? fun s => s.markType = type

/-- The shape of a mark type; that a type has none is a failure. -/
def ofMarkType (type : String) : Attempt Shape :=
  match ofMarkType? type with
  | some s => .ok s
  | none =>
    .error (.ofCause (.unknownMarkType
      ("No Vega-Lite mark corresponds to Vega mark type " ++ Text.quoted type)))

end Shape

end ChartBinding
