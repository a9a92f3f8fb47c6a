import ChartBinding.Compile

/-!
# The plain compiler

A compiler of sketches that does the least: the rows become one data source, every channel gets a
linear scale over its field, the two spatial channels get axes and the color gets a legend. Scales
and guides stand in one group, with a single mark that sets every channel.
-/

namespace ChartBinding.PlainCompiler

/-- The name of the only data source. -/
def sourceName : String := "source"

/-- The field of the compiled data that a channel shows. -/
def fieldName (d : ChannelDef) : String :=
  match d.aggregate with
  | some op => op.name ++ "_" ++ d.field
  | none => d.field

/-- The range of a channel's scale: the extent of the surface for the spatial channels. -/
def range (cell : Sketch.Cell) (channel : Channel) : Scale.Range :=
  if channel = "x" then .list [.int 0, Json.float cell.width]
  else if channel = "y" then .list [Json.float cell.height, .int 0]
  else if channel = "color" then .value (.str "category10")
  else .list [.int 0, .int 100]

def scale (cell : Sketch.Cell) (channel : Channel) (d : ChannelDef) : Scale :=
  { name := channel
    kind := some "linear"
    domain := some (.field ⟨sourceName, .str (fieldName d), ∅⟩)
    range := some (range cell channel)
    extra := ∅ }

def axis? (channel : Channel) : Option Axis :=
  if channel = "x" ∨ channel = "y" then
    some ⟨channel, none, Table.ofList [("type", .str channel)]⟩
  else none

def legend? (channel : Channel) : Option Legend :=
  if channel = "color" then some ⟨some channel, none, none, none, none, ∅⟩ else none

/-- How the mark sets a channel. -/
def channelValue (channel : Channel) (d : ChannelDef) : Json :=
  .obj [("scale", .str channel), ("field", .str (fieldName d))]

def mark (s : Sketch) : Mark :=
  { Mark.blank with
    kind := s.shape.markType
    name := some "marks"
    source := some ⟨some sourceName, none, ∅⟩
    encoding := some (Table.ofList
      [("update",
        Table.ofList (s.encoding.entries.map fun e => (e.1, channelValue e.1 e.2)))]) }

def chart (s : Sketch) (cell : Sketch.Cell) : Chart :=
  { Chart.blank with
    schema := Chart.defaultSchema
    data := [⟨sourceName, none, none, none, s.data.values.map .arr, [], ∅⟩]
    marks :=
      [{ Mark.blank with
          kind := "group"
          name := some "root"
          scales := s.encoding.entries.map fun e => scale cell e.1 e.2
          axes := s.encoding.keys.filterMap axis?
          legends := s.encoding.keys.filterMap legend?
          marks := [mark s] }] }

/-- The plain compiler. A sketch without plotting surface cannot be compiled. -/
def compile : Compiler := fun s =>
  match s.config.cell with
  | some cell => .ok (chart s cell)
  | none => .error (.ofCause (.compilation "Missing cell config"))

end ChartBinding.PlainCompiler
