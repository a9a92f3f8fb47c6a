import ChartBinding.Chart.Walk

/-!
# What a chart contains

The names of the parts of a chart, collected in one walk, and the scales that were sized from the
plotting surface, collected in another.
-/

namespace ChartBinding

structure Glyph where
  name : Option String
  kind : String
  data : Option String
  /-- The properties that the mark sets on updates, increasing. -/
  channels : List String
deriving DecidableEq

def Mark.glyph (m : Mark) : Glyph :=
  { name := m.name
    kind := m.kind
    data := m.source.bind (·.data)
    channels := m.channels "update" }

/-- The names of the parts of a chart, each list in the order of the walk. An axis goes by the name
of its scale, and a legend by the first of its scales. -/
structure Inventory where
  data : List String
  scales : List String
  axes : List String
  legends : List String
  glyphs : List Glyph
deriving DecidableEq

namespace Inventory

def empty : Inventory := ⟨[], [], [], [], []⟩

/-- Notes down each part of a chart. -/
def collector : Visitor (StateM Inventory) :=
  { Visitor.idle with
    data := fun d _ => modify fun i => { i with data := i.data ++ [d.name] }
    scale := fun s _ => modify fun i => { i with scales := i.scales ++ [s.name] }
    axis := fun a _ => modify fun i => { i with axes := i.axes ++ [a.scale] }
    legend := fun l _ => modify fun i => { i with legends := i.legends ++ l.scales.take 1 }
    mark := fun m _ => modify fun i => { i with glyphs := i.glyphs ++ [m.glyph] } }

end Inventory

namespace Chart

def inventory (c : Chart) : Inventory := ((c.walk Inventory.collector).run Inventory.empty).2

/-- Notes down the scales that span the width or the height. -/
def cellSizedCollector (width height : Double) : Visitor (StateM (List String)) :=
  { Visitor.idle with
    scale := fun s _ => do
      if s.isCellSized width height then modify fun names => names ++ [s.name] }

/-- The scales of a chart whose range spans the width or the height of the plotting surface. -/
def cellSizedScales (c : Chart) (width height : Double) : List String :=
  ((c.walk (cellSizedCollector width height)).run []).2

end Chart

end ChartBinding
