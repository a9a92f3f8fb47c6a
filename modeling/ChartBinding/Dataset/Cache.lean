import ChartBinding.DataType
import ChartBinding.Scene

/-!
# The data set cache

The cache keeps the raw rows of data sets and the schemas inferred from them. Rows are loaded once
and never change; a data set derived from another one shares its rows. A schema is inferred once,
from what the data set shows at that moment, and kept until the cache is reset.

What a data set shows are the rows evaluated by the live view, if there are any, and else its raw
rows: while the view is being rebuilt its evaluated rows are empty.

Every operation tells, beside its value and the cache it leaves, what it asked of the live view and
of the inference (`Dataset.Event`).
-/

namespace ChartBinding

/-- The rows of a data set, which are objects as a rule. -/
abbrev Rows := List Json

def Rows.read : Reader Rows := Json.readList Json.readAny

structure FieldSchema where
  name : String
  type : DataType
  measure : Measure
deriving DecidableEq

namespace FieldSchema

def recordShape : RecordShape := ⟨"FieldSchema", ["name", "type", "mtype"]⟩

def read : Reader FieldSchema :=
  recordShape.readPlain fun src =>
    FieldSchema.mk
      <$> src.required "name" Json.readString
      <*> src.required "type" DataType.read
      <*> src.required "mtype" Measure.read

def write (f : FieldSchema) : Json :=
  Json.plainRecord
    [("name", some (.str f.name)), ("type", some f.type.write), ("mtype", some f.measure.write)]

/-- A field of an inferred type, measured as that type suggests. -/
def ofType (name : String) (type : DataType) : FieldSchema := ⟨name, type, type.measure⟩

end FieldSchema

abbrev Schema := Table String FieldSchema

/-- The schema of typed fields; of several with one name the last counts. -/
def Schema.ofTypes (fields : List (String × DataType)) : Schema :=
  Table.ofList (fields.reverse.map fun f => (f.1, FieldSchema.ofType f.1 f.2))

def Schema.write (s : Schema) : Json := Json.ofTable FieldSchema.write s

namespace Dataset

/-- Access to the data sets that a running view has evaluated. -/
structure LiveView where
  nameOf : DatasetId → Option String
  rowsOf : String → Option Rows

/-- The live view that knows the given names and rows. -/
def LiveView.ofTables (names : Table DatasetId String) (rows : Table String Rows) : LiveView :=
  ⟨names.find?, rows.find?⟩

/-- A way to tell the types of the fields of rows. -/
abbrev Inference := Rows → List (String × DataType)

/-- What a data set is loaded from. If it has a source, its values are not used. -/
structure Props where
  source : Option DatasetId
  values : Option Rows

/-- Raw rows, with the data set that they were loaded for. Data sets with one origin share them. -/
structure Loaded where
  origin : DatasetId
  rows : Rows

/-- What an operation of the cache asked for or noted down. -/
inductive Event where
  /-- The live view was asked for the name of a data set. -/
  | nameAsked (id : DatasetId)
  /-- The live view was asked for the rows of a named data set. -/
  | rowsAsked (name : String)
  /-- The types of the fields of some rows were inferred. -/
  | inferred (rows : Rows)
  /-- A data set was loaded without values. -/
  | withoutValues (id : DatasetId)

structure Cache where
  values : Table DatasetId Loaded
  schemas : Table DatasetId Schema
  view : Option LiveView
  inference : Inference

/-- The value of an operation, the cache it leaves, and what it asked for. -/
structure Reply (α : Type) where
  value : α
  cache : Cache
  events : List Event

namespace Cache

def new (inference : Inference) : Cache := ⟨∅, ∅, none, inference⟩

def setView (c : Cache) (view : LiveView) : Cache := { c with view := some view }

/-- Forgets all rows and schemas. The live view stays. -/
def reset (c : Cache) : Cache := { c with values := ∅, schemas := ∅ }

def input (c : Cache) (id : DatasetId) : Option Rows := (c.values.find? id).map (·.rows)

/-- The rows that the live view has evaluated for a data set. -/
def evaluated (c : Cache) (id : DatasetId) : Option Rows := do
  let view ← c.view
  let name ← view.nameOf id
  view.rowsOf name

/-- The rows that a data set shows. -/
def output (c : Cache) (id : DatasetId) : Option Rows :=
  match c.evaluated id with
  | some (row :: rows) => some (row :: rows)
  | _ => c.input id

/-- What the live view is asked when the rows of a data set are looked up. -/
def outputEvents (c : Cache) (id : DatasetId) : List Event :=
  match c.view with
  | none => []
  | some view =>
    match view.nameOf id with
    | none => [.nameAsked id]
    | some name => [.nameAsked id, .rowsAsked name]

/-- The schema of a data set. It is inferred when it is first asked for; a data set that shows
nothing yet has an empty schema, which is not kept. -/
def schema (c : Cache) (id : DatasetId) : Reply Schema :=
  match c.schemas.find? id with
  | some s => ⟨s, c, []⟩
  | none =>
    match c.output id with
    | none => ⟨∅, c, c.outputEvents id⟩
    | some rows =>
      let s := Schema.ofTypes (c.inference rows)
      ⟨s, { c with schemas := c.schemas.insert id s }, c.outputEvents id ++ [.inferred rows]⟩

/-- The rows that a data set is loaded with: those of its source, or else its own. -/
def loadedFor (c : Cache) (id : DatasetId) (props : Props) : Option Loaded :=
  match props.source with
  | some source => c.values.find? source
  | none => props.values.map fun rows => ⟨id, rows⟩

/-- Loads a data set and infers its schema. A data set that is already loaded stays as it is. -/
def load (c : Cache) (id : DatasetId) (props : Props) : Reply (Option Rows) :=
  match c.values.find? id with
  | some l => ⟨some l.rows, c, []⟩
  | none =>
    match c.loadedFor id props with
    | some l =>
      let r := schema { c with values := c.values.insert id l } id
      ⟨some l.rows, r.cache, r.events⟩
    | none =>
      let r := c.schema id
      ⟨none, r.cache, .withoutValues id :: r.events⟩

/-- Whether the schema of a data set is kept. -/
def isMemoized (c : Cache) (id : DatasetId) : Bool := c.schemas.contains id

/-- Whether two loaded data sets share their rows; none if one of them is not loaded. -/
def shares? (c : Cache) (id other : DatasetId) : Option Bool := do
  let l ← c.values.find? id
  let l' ← c.values.find? other
  return l.origin == l'.origin

/-- A summary of what the cache holds. -/
def summary (c : Cache) : String :=
  let ids (l : List DatasetId) : String := "[" ++ ", ".intercalate (l.map toString) ++ "]"
  "DatasetCache \x7b values: " ++ ids c.values.keys ++ ", schemas: " ++ ids c.schemas.keys
    ++ ", live_view: " ++ (if c.view.isSome then "true" else "false") ++ " \x7d"

end Cache

end Dataset

end ChartBinding
