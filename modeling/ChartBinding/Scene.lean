import ChartBinding.Failure
import ChartBinding.Json.Record

/-!
# The scene

The scene is the application's table of marks. A mark of the scene is driven by one pipeline, a data
set or another mark, or by none as long as nothing has been bound to it. A mark that is driven stays
with its pipeline: binding a field of another data set to it is refused.
-/

namespace ChartBinding

/-- The number by which the application knows a mark. -/
abbrev MarkId := UInt32

/-- The number by which the application knows a data set. -/
abbrev DatasetId := UInt32

/-! ## Links -/

/-- What drives a mark of the scene: a data set, or another mark. -/
structure Link where
  data : Option DatasetId
  mark : Option MarkId
deriving DecidableEq

namespace Link

def recordShape : RecordShape := ⟨"MarkFrom", ["data", "mark"]⟩

def read : Reader Link :=
  recordShape.readPlain fun src =>
    Link.mk <$> src.optional "data" Json.readId <*> src.optional "mark" Json.readId

def write (l : Link) : Json :=
  Json.plainRecord [("data", l.data.map Json.ofId), ("mark", l.mark.map Json.ofId)]

/-- What a value links a mark to: nothing, if it does not read as a link. -/
def ofJson? (v : Json) : Option Link := (read v).toOption

def toDataset (id : DatasetId) : Link := ⟨some id, none⟩

end Link

/-! ## Marks of the scene -/

structure SceneMark where
  id : MarkId
  type : String
  link : Option Link
  extra : Table String Json

namespace SceneMark

def recordShape : RecordShape := ⟨"MarkState", ["id", "type", "from"]⟩

def read : Reader SceneMark :=
  recordShape.readOpen fun src extra =>
    SceneMark.mk
      <$> src.required "id" Json.readId
      <*> src.required "type" Json.readString
      <*> src.optional "from" Link.read
      <*> pure extra

def write (m : SceneMark) : Json :=
  Json.openRecord
    [("id", some (Json.ofId m.id)), ("type", some (.str m.type)), ("from", m.link.map Link.write)]
    m.extra

/-! ## Staying on one pipeline -/

/-- How a mark stands to a data set that is bound to it. -/
inductive Pipeline where
  /-- The mark is driven by that data set. -/
  | established
  /-- Nothing drives the mark yet. -/
  | missing
deriving DecidableEq

/-- Why a data set cannot be bound to a mark. -/
inductive Conflict where
  /-- Another mark drives it. -/
  | drivenByMark (id leader : MarkId) (wanted : DatasetId)
  /-- Another data set drives it, or its link names nothing. -/
  | drivenByData (id : MarkId) (current : Option DatasetId) (wanted : DatasetId)

def Conflict.message : Conflict → String
  | .drivenByMark id leader wanted =>
    "Mark " ++ toString id ++ " is driven by mark " ++ toString leader ++ ", not dataset "
      ++ toString wanted
  | .drivenByData id current wanted =>
    let name :=
      match current with
      | some d => toString d
      | none => "<none>"
    "Mark " ++ toString id ++ " is driven by dataset " ++ name ++ ", not dataset "
      ++ toString wanted

/-- How a mark stands to a data set that is to be bound to it, or why it cannot be. -/
def pipeline (m : SceneMark) (dataset : DatasetId) : Except Conflict Pipeline :=
  match m.link with
  | none => .ok .missing
  | some ⟨_, some leader⟩ => .error (.drivenByMark m.id leader dataset)
  | some ⟨current, none⟩ =>
    if current = some dataset then .ok .established
    else .error (.drivenByData m.id current dataset)

/-- A conflict as a failure. -/
def checkPipeline (m : SceneMark) (dataset : DatasetId) : Attempt Pipeline :=
  (m.pipeline dataset).mapError fun c => .ofCause (.pipelineMismatch c.message)

end SceneMark

abbrev Scene := Table MarkId SceneMark

end ChartBinding
