import ChartBinding.Chart.Basic
import ChartBinding.Dataset.Cache
import ChartBinding.Sketch.Basic

/-!
# Compiling sketches

A sketch is compiled with the rows that its data set shows and with the size of the plotting
surface put into a copy of it. Ranges that the compiler sizes from the surface can thereby be told
from ranges that it chooses. Binding certain properties also makes the marks filled, since some
marks are drawn in outline unless told otherwise and would not show a fill.
-/

namespace ChartBinding

/-! ## Settings -/

/-- What the user of a binder can set. -/
structure Settings where
  cellWidth : Double
  cellHeight : Double
  /-- The properties whose binding makes marks filled. -/
  filledProperties : List String
deriving DecidableEq

namespace Settings

/-- The width of the plotting surface, unlike any width that a compiler has built in. -/
def defaultWidth : Double := (Double.ofInt? 517).get (by decide +kernel)

def defaultHeight : Double := (Double.ofInt? 392).get (by decide +kernel)

def default : Settings := ⟨defaultWidth, defaultHeight, ["fill"]⟩

def recordShape : RecordShape :=
  ⟨"CompileConfig", ["cell_width", "cell_height", "filled_properties"]⟩

def read : Reader Settings :=
  recordShape.readPlain fun src =>
    Settings.mk
      <$> src.withDefault "cell_width" default.cellWidth Json.readDouble
      <*> src.withDefault "cell_height" default.cellHeight Json.readDouble
      <*> src.withDefault "filled_properties" default.filledProperties
        (Json.readList Json.readString)

def write (s : Settings) : Json :=
  Json.plainRecord
    [("cell_width", some (Json.float s.cellWidth)),
     ("cell_height", some (Json.float s.cellHeight)),
     ("filled_properties", some (.arr (s.filledProperties.map .str)))]

def forcesFill (s : Settings) (property : String) : Bool := s.filledProperties.contains property

def cell (s : Settings) : Sketch.Cell := ⟨s.cellWidth, s.cellHeight⟩

end Settings

/-! ## Compilers -/

/-- A way to turn a sketch into a chart. -/
abbrev Compiler := Sketch → Attempt Chart

namespace Compiler

/-- The compiler made of a function on JSON documents. The function's own errors are compilation
failures; a result that does not read as a chart is an unreadable one. -/
def ofJson (f : Json → Except String Json) : Compiler := fun s =>
  match f s.write with
  | .error message => .error (.ofCause (.compilation message))
  | .ok v => (Attempt.ofRead (Chart.read v)).withContext "Compiled Vega spec is malformed"

end Compiler

structure Compiled where
  input : Sketch
  output : Chart

namespace Sketch

/-- The copy of a sketch that is handed to the compiler. -/
def prepared (s : Sketch) (property : String) (rows : Option Rows) (settings : Settings) : Sketch :=
  { s with
    data := { s.data with values := rows }
    config :=
      { s.config with
        cell := some settings.cell
        mark := if settings.forcesFill property then some MarkStyle.solid else s.config.mark } }

def compile (s : Sketch) (property : String) (rows : Option Rows) (settings : Settings)
    (compiler : Compiler) : Attempt Compiled := do
  let input := s.prepared property rows settings
  return ⟨input, ← compiler input⟩

theorem compile_eq_map (s : Sketch) (property : String) (rows : Option Rows) (settings : Settings)
    (compiler : Compiler) :
    s.compile property rows settings compiler =
      (compiler (s.prepared property rows settings)).map
        (Compiled.mk (s.prepared property rows settings)) := by
  rw [compile]
  cases compiler (s.prepared property rows settings) <;> rfl

end Sketch

end ChartBinding
