import ChartBinding.Json.Record

/-!
# Guides: axes and legends

A guide shows a scale to the reader of the chart. An axis shows one scale; a legend may show
several, one for each visual property it explains.
-/

namespace ChartBinding

/-! ## Axes -/

structure Axis where
  scale : String
  orient : Option String
  extra : Table String Json

namespace Axis

def recordShape : RecordShape := ⟨"AxisSpec", ["scale", "orient"]⟩

def read : Reader Axis :=
  recordShape.readOpen fun src extra =>
    Axis.mk
      <$> src.required "scale" Json.readString
      <*> src.optional "orient" Json.readString
      <*> pure extra

def write (a : Axis) : Json :=
  Json.openRecord [("scale", some (.str a.scale)), ("orient", a.orient.map .str)] a.extra

end Axis

/-! ## Legends -/

/-- A legend, with the scale of each visual property it explains. -/
structure Legend where
  fill : Option String
  stroke : Option String
  size : Option String
  shape : Option String
  opacity : Option String
  extra : Table String Json

namespace Legend

def recordShape : RecordShape :=
  ⟨"LegendSpec", ["fill", "stroke", "size", "shape", "opacity"]⟩

def read : Reader Legend :=
  recordShape.readOpen fun src extra =>
    Legend.mk
      <$> src.optional "fill" Json.readString
      <*> src.optional "stroke" Json.readString
      <*> src.optional "size" Json.readString
      <*> src.optional "shape" Json.readString
      <*> src.optional "opacity" Json.readString
      <*> pure extra

def write (l : Legend) : Json :=
  Json.openRecord
    [("fill", l.fill.map .str), ("stroke", l.stroke.map .str), ("size", l.size.map .str),
     ("shape", l.shape.map .str), ("opacity", l.opacity.map .str)]
    l.extra

/-- The scales that a legend refers to, in the order fill, stroke, size, shape, opacity. -/
def scales (l : Legend) : List String :=
  [l.fill, l.stroke, l.size, l.shape, l.opacity].filterMap id

end Legend

end ChartBinding
