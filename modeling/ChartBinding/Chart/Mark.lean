import ChartBinding.Chart.Guide
import ChartBinding.Chart.DataSource
import ChartBinding.Chart.Scale

/-!
# Marks

A mark draws one graphical item for each row of its data. A *group* mark holds data, scales, axes,
legends and marks of its own, so marks nest to any depth. Reading and writing follow the nesting.
-/

namespace ChartBinding

/-! ## Where a mark's rows come from -/

/-- What drives a mark of a chart: a data source, or another mark. -/
structure MarkSource where
  data : Option String
  mark : Option String
  extra : Table String Json

namespace MarkSource

def recordShape : RecordShape := ⟨"MarkFromSpec", ["data", "mark"]⟩

def read : Reader MarkSource :=
  recordShape.readOpen fun src extra =>
    MarkSource.mk
      <$> src.optional "data" Json.readString
      <*> src.optional "mark" Json.readString
      <*> pure extra

def write (m : MarkSource) : Json :=
  Json.openRecord [("data", m.data.map .str), ("mark", m.mark.map .str)] m.extra

end MarkSource

/-! ## How a mark's properties are set -/

/-- The properties set on one occasion, such as an update: each property with its definition. -/
abbrev EncodingSet := Table String Json

/-- The encoding sets of a mark, by the occasion on which they apply. -/
abbrev Encoding := Table String EncodingSet

namespace Encoding

def readSet : Reader EncodingSet
  | .obj ms => .ok (Table.ofList ms)
  | v => .error (.wrongKind v "struct MarkEncodingsSpec")

def read : Reader Encoding
  | .obj ms => Json.readMembers readSet ms
  | v => .error (.wrongKind v "struct MarkEncodeSpec")

def write (e : Encoding) : Json := Json.ofTable (Json.ofTable id) e

end Encoding

/-! ## Marks -/

structure Mark where
  kind : String
  name : Option String
  source : Option MarkSource
  encoding : Option Encoding
  data : List DataSource
  marks : List Mark
  scales : List Scale
  axes : List Axis
  legends : List Legend
  extra : Table String Json

namespace Mark

/-- Whether a mark holds other marks. Only the kind counts: the contents of any other mark are
kept, but they are not part of the chart. -/
def isGroup (m : Mark) : Bool := m.kind == "group"

/-- The properties that a mark sets on an occasion, each once and in increasing order. -/
def channels (m : Mark) (occasion : String) : List String :=
  match m.encoding with
  | some e => ((e.find? occasion).map Table.keys).getD []
  | none => []

/-- The encoding may be given under either of two names, the second an older spelling. -/
def recordShape : RecordShape :=
  ⟨"MarkSpec",
    ["type", "name", "from", "encode", "properties", "data", "marks", "scales", "axes", "legends"]⟩

/-! ### Reading -/

/-- The encoding, under either of its names. Given under both, it is a fault at the later one. -/
def readEncoding (src : Source) : Gather (Option Encoding) :=
  let read := Json.readOption Encoding.read
  match src.find? "encode", src.find? "properties" with
  | some (i, v), some (j, w) =>
    let (first, last) := if i < j then (v, j) else (w, i)
    let misread :=
      match read first with
      | .error e => (min i j, e)
      | .ok _ => (last, .repeated "encode")
    ⟨some misread, .error misread.2⟩
  | some _, none => src.withDefault "encode" none read
  | none, _ => src.withDefault "properties" none read

/-- The fields of a mark, given what was read under `marks`. -/
def gather (marks : Slot (List Mark)) (src : Source) (extra : Table String Json) : Gather Mark :=
  Mark.mk
    <$> src.required "type" Json.readString
    <*> src.optional "name" Json.readString
    <*> src.optional "from" MarkSource.read
    <*> readEncoding src
    <*> src.withDefault "data" [] (Json.readList DataSource.read)
    <*> marks.withDefault []
    <*> src.withDefault "scales" [] (Json.readList Scale.read)
    <*> src.withDefault "axes" [] (Json.readList Axis.read)
    <*> src.withDefault "legends" [] (Json.readList Legend.read)
    <*> pure extra

mutual

/-- Reads a mark with all the marks that it holds. -/
def read : Json → Except ReadError Mark
  | .obj ms => recordShape.readOpen (gather (readNested 0 ms)) (.obj ms)
  | v => .error (.wrongKind v recordShape.want)

/-- What the members of a mark hold under `marks`; positions count from `start`. -/
def readNested (start : Nat) : List (String × Json) → Slot (List Mark)
  | [] => none
  | (k, v) :: rest =>
    if k = "marks" then some (start, readSequence v) else readNested (start + 1) rest

def readSequence : Json → Except ReadError (List Mark)
  | .arr xs => readAll xs
  | v => .error (.wrongKind v "a sequence")

def readAll : List Json → Except ReadError (List Mark)
  | [] => .ok []
  | v :: rest => do return (← read v) :: (← readAll rest)

end

theorem readAll_eq_mapM (xs : List Json) : readAll xs = xs.mapM read := by
  induction xs with
  | nil => rfl
  | cons v rest ih => rw [readAll, ih, List.mapM_cons]

theorem readSequence_eq (v : Json) : readSequence v = Json.readList read v := by
  cases v <;> simp [readSequence, Json.readList, readAll_eq_mapM]

theorem readNested_eq (start : Nat) (ms : List (String × Json)) :
    readNested start ms =
      (Json.locate "marks" start ms).map fun f => (f.1, Json.readList read f.2) := by
  induction ms generalizing start with
  | nil => rfl
  | cons m rest ih =>
    by_cases h : m.1 = "marks" <;> simp [readNested, Json.locate, h, ih, readSequence_eq]

/-- A mark is read as an open record, with the marks that it holds as one of its fields. -/
theorem read_eq (v : Json) :
    read v = recordShape.readOpen
      (fun src extra => gather (src.slot "marks" (Json.readList read)) src extra) v := by
  cases v <;> simp [read, RecordShape.readOpen, Source.slot, Source.find?, readNested_eq]

/-! ### Writing -/

mutual

def write : Mark → Json
  | ⟨kind, name, source, encoding, data, marks, scales, axes, legends, extra⟩ =>
    Json.openRecord
      [("type", some (.str kind)), ("name", name.map .str),
       ("from", source.map MarkSource.write), ("encode", encoding.map Encoding.write),
       ("data", Json.ofListUnlessEmpty DataSource.write data),
       ("marks", Json.ofListUnlessEmpty id (writeAll marks)),
       ("scales", Json.ofListUnlessEmpty Scale.write scales),
       ("axes", Json.ofListUnlessEmpty Axis.write axes),
       ("legends", Json.ofListUnlessEmpty Legend.write legends)]
      extra

def writeAll : List Mark → List Json
  | [] => []
  | m :: rest => write m :: writeAll rest

end

theorem writeAll_eq_map (ms : List Mark) : writeAll ms = ms.map write := by
  induction ms with
  | nil => rfl
  | cons m rest ih => rw [writeAll, ih, List.map_cons]

def blank : Mark := ⟨"", none, none, none, [], [], [], [], [], ∅⟩

instance : Inhabited Mark := ⟨blank⟩

end Mark

end ChartBinding
