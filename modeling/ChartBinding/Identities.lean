import ChartBinding.Chart.Inventory

/-!
# Identities of compiled parts

The application creates primitives of its own for the data, scales, axes and legends of a compiled
chart. The identities of a mark remember, for each kind apart, which name stands for which
primitive, so that a part compiled again is recognized.
-/

namespace ChartBinding

/-- The number by which the application knows a primitive. -/
abbrev PrimitiveId := UInt32

inductive PrimitiveKind where
  | data
  | scale
  | axis
  | legend
deriving DecidableEq

namespace PrimitiveKind

def all : List PrimitiveKind := [data, scale, axis, legend]

def name : PrimitiveKind → String
  | data => "data"
  | scale => "scale"
  | axis => "axis"
  | legend => "legend"

def title : PrimitiveKind → String
  | data => "Data"
  | scale => "Scale"
  | axis => "Axis"
  | legend => "Legend"

end PrimitiveKind

/-- The parts of a chart of one kind. -/
def Inventory.names (i : Inventory) : PrimitiveKind → List String
  | .data => i.data
  | .scale => i.scales
  | .axis => i.axes
  | .legend => i.legends

/-- Which primitive each named part stands for. -/
structure Identities where
  data : Table String PrimitiveId
  scales : Table String PrimitiveId
  axes : Table String PrimitiveId
  legends : Table String PrimitiveId

namespace Identities

def empty : Identities := ⟨∅, ∅, ∅, ∅⟩

instance : Inhabited Identities := ⟨empty⟩

def entries (i : Identities) : PrimitiveKind → Table String PrimitiveId
  | .data => i.data
  | .scale => i.scales
  | .axis => i.axes
  | .legend => i.legends

def find? (i : Identities) (kind : PrimitiveKind) (name : String) : Option PrimitiveId :=
  (i.entries kind).find? name

def insert (i : Identities) (kind : PrimitiveKind) (name : String) (id : PrimitiveId) :
    Identities :=
  match kind with
  | .data => { i with data := i.data.insert name id }
  | .scale => { i with scales := i.scales.insert name id }
  | .axis => { i with axes := i.axes.insert name id }
  | .legend => { i with legends := i.legends.insert name id }

theorem find?_insert (i : Identities) (k k' : PrimitiveKind) (n n' : String) (id : PrimitiveId) :
    (i.insert k n id).find? k' n' =
      if k' = k ∧ n' = n then some id else i.find? k' n' := by
  by_cases hn : n' = n
  · subst hn
    cases k <;> cases k' <;> simp [insert, find?, entries]
  · cases k <;> cases k' <;> simp [insert, find?, entries, hn, Table.find?_insert_of_ne]

/-- The parts of one kind that stand for no primitive yet. -/
def unmappedOf (i : Identities) (inventory : Inventory) (kind : PrimitiveKind) :
    List (PrimitiveKind × String) :=
  ((inventory.names kind).filter fun n => (i.find? kind n).isNone).map fun n => (kind, n)

/-- The parts that stand for no primitive yet: data, scales, axes and legends, in walk order. -/
def unmapped (i : Identities) (inventory : Inventory) : List (PrimitiveKind × String) :=
  PrimitiveKind.all.flatMap (i.unmappedOf inventory)

def recordShape : RecordShape := ⟨"IdentityMap", ["data", "scales", "axes", "legends"]⟩

def read : Reader Identities :=
  recordShape.readPlain fun src =>
    Identities.mk
      <$> src.required "data" (Json.readTable Json.readId)
      <*> src.required "scales" (Json.readTable Json.readId)
      <*> src.required "axes" (Json.readTable Json.readId)
      <*> src.required "legends" (Json.readTable Json.readId)

def write (i : Identities) : Json :=
  let table (t : Table String PrimitiveId) : Option Json := some (Json.ofTable Json.ofId t)
  Json.plainRecord
    [("data", table i.data), ("scales", table i.scales), ("axes", table i.axes),
     ("legends", table i.legends)]

end Identities

end ChartBinding
