import ChartBinding.DataType
import ChartBinding.Json.Record
import ChartBinding.Sketch.Aggregate
import ChartBinding.Sketch.Shape

/-!
# Sketches

A sketch is the concise specification of one mark: its shape, the data it shows, the field shown in
each channel, and configuration. A compiler turns a sketch into a chart that spells out scales and
guides. Sketches are put together channel by channel, as fields are bound to a mark.
-/

namespace ChartBinding

/-- A visual channel of a sketch, by its name. -/
abbrev Channel := String

/-- The field that a channel shows, and what is done to it first. -/
structure ChannelDef where
  measure : Measure
  field : String
  aggregate : Option Aggregate
  bin : Option Bool
deriving DecidableEq

namespace ChannelDef

def recordShape : RecordShape := ⟨"ChannelDefSpec", ["type", "field", "aggregate", "bin"]⟩

def read : Reader ChannelDef :=
  recordShape.readPlain fun src =>
    ChannelDef.mk
      <$> src.required "type" Measure.read
      <*> src.required "field" Json.readString
      <*> src.optional "aggregate" Aggregate.read
      <*> src.optional "bin" Json.readBool

def write (d : ChannelDef) : Json :=
  Json.plainRecord
    [("type", some d.measure.write), ("field", some (.str d.field)),
     ("aggregate", d.aggregate.map Aggregate.write), ("bin", d.bin.map .bool)]

end ChannelDef

namespace Sketch

structure Data where
  values : Option (List Json)
  extra : Table String Json

namespace Data

def recordShape : RecordShape := ⟨"LiteDataSpec", ["values"]⟩

def read : Reader Data :=
  recordShape.readOpen fun src extra =>
    Data.mk <$> src.optional "values" (Json.readList Json.readAny) <*> pure extra

def write (d : Data) : Json := Json.openRecord [("values", d.values.map .arr)] d.extra

end Data

structure Cell where
  width : Double
  height : Double
deriving DecidableEq

namespace Cell

def recordShape : RecordShape := ⟨"CellConfigSpec", ["width", "height"]⟩

def read : Reader Cell :=
  recordShape.readPlain fun src =>
    Cell.mk <$> src.required "width" Json.readDouble <*> src.required "height" Json.readDouble

def write (c : Cell) : Json :=
  Json.plainRecord [("width", some (Json.float c.width)), ("height", some (Json.float c.height))]

end Cell

/-- How marks are drawn unless a channel says otherwise. -/
structure MarkStyle where
  filled : Option Bool
  extra : Table String Json

namespace MarkStyle

def recordShape : RecordShape := ⟨"MarkConfigSpec", ["filled"]⟩

def read : Reader MarkStyle :=
  recordShape.readOpen fun src extra =>
    MarkStyle.mk <$> src.optional "filled" Json.readBool <*> pure extra

def write (s : MarkStyle) : Json := Json.openRecord [("filled", s.filled.map .bool)] s.extra

/-- Marks are filled, and nothing else is said. -/
def solid : MarkStyle := ⟨some true, ∅⟩

end MarkStyle

structure Config where
  cell : Option Cell
  mark : Option MarkStyle
  extra : Table String Json

namespace Config

def recordShape : RecordShape := ⟨"LiteConfigSpec", ["cell", "mark"]⟩

def read : Reader Config :=
  recordShape.readOpen fun src extra =>
    Config.mk
      <$> src.optional "cell" Cell.read
      <*> src.optional "mark" MarkStyle.read
      <*> pure extra

def write (c : Config) : Json :=
  Json.openRecord [("cell", c.cell.map Cell.write), ("mark", c.mark.map MarkStyle.write)] c.extra

end Config

end Sketch

/-- The concise specification of one mark. -/
structure Sketch where
  shape : Shape
  data : Sketch.Data
  encoding : Table Channel ChannelDef
  config : Sketch.Config
  extra : Table String Json

namespace Sketch

/-- A sketch that shows nothing yet. -/
def ofShape (shape : Shape) : Sketch := ⟨shape, ⟨none, ∅⟩, ∅, ⟨none, none, ∅⟩, ∅⟩

def recordShape : RecordShape := ⟨"LiteSpec", ["mark", "data", "encoding", "config"]⟩

def read : Reader Sketch :=
  recordShape.readOpen fun src extra =>
    Sketch.mk
      <$> src.required "mark" Shape.read
      <*> src.withDefault "data" ⟨none, ∅⟩ Data.read
      <*> src.withDefault "encoding" ∅ (Json.readTable ChannelDef.read)
      <*> src.withDefault "config" ⟨none, none, ∅⟩ Config.read
      <*> pure extra

def write (s : Sketch) : Json :=
  Json.openRecord
    [("mark", some s.shape.write), ("data", some s.data.write),
     ("encoding", some (Json.ofTable ChannelDef.write s.encoding)),
     ("config", some s.config.write)]
    s.extra

def encode (s : Sketch) (channel : Channel) (d : ChannelDef) : Sketch :=
  { s with encoding := s.encoding.insert channel d }

def clear (s : Sketch) (channel : Channel) : Sketch :=
  { s with encoding := s.encoding.erase channel }

end Sketch

end ChartBinding
