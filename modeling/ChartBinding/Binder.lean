import ChartBinding.Extraction
import ChartBinding.Field
import ChartBinding.Sketchbook

/-!
# Binding fields to mark properties

To bind a field of a data set to a property of a mark is to show the field in the channel of that
property: the mark's sketch is opened, the mark is linked to the data set if nothing drives it yet,
the channel is set, the sketch is compiled, and the extraction stages carry the result over into the
application. Everything that is dispatched after the sketch has been opened is one batch.

A binding may fail at any step. What was done before stays done: the sketch stays open, the link
stays, and so does the channel once it is set.
-/

namespace ChartBinding

/-- The application that a binder works for: where marks are looked up, and where actions go. -/
structure Host (ω : Type) where
  mark? : ω → MarkId → Option SceneMark
  dispatch : ω → Action → ω

/-- The scene as an application of its own. -/
def Scene.host : Host Scene := ⟨Table.find?, Scene.apply⟩

/-- A field of a data set, to be bound to a property of a mark. -/
structure Binding where
  dataset : DatasetId
  field : Field
  mark : MarkId
  property : String

namespace Binding

def channel (r : Binding) : Channel := Channel.ofProperty r.property

def link (r : Binding) : Link := Link.toDataset r.dataset

end Binding

/-! ## The trace of a binding -/

/-- A remark for the log. -/
inductive Note where
  | sketchOpened (shape : Shape) (mark : MarkId)
  | linking (mark : MarkId) (dataset : DatasetId)
  | rejected (field : String) (mark : MarkId) (failure : Failure)
  | compiling (shape : Shape) (property : String)
  | unmapped (mark : MarkId) (parts : List (PrimitiveKind × String))
  | withoutValues (dataset : DatasetId)

namespace Note

def isWarning : Note → Bool
  | rejected .. => true
  | _ => false

/-- A list of parts as it stands in the log. -/
def partList (parts : List (PrimitiveKind × String)) : String :=
  "[" ++ ", ".intercalate (parts.map fun p => "(" ++ p.1.title ++ ", " ++ Text.quoted p.2 ++ ")")
    ++ "]"

def text : Note → String
  | sketchOpened shape mark =>
    "Creating Vega-Lite " ++ shape.title ++ " spec for mark " ++ toString mark
  | linking mark dataset =>
    "Linking mark " ++ toString mark ++ " to dataset " ++ toString dataset
  | rejected field mark failure =>
    "Rejected binding of " ++ Text.quoted field ++ " to mark " ++ toString mark ++ ": "
      ++ failure.text
  | compiling shape property =>
    "Compiling Vega-Lite " ++ shape.title ++ " spec for property " ++ property
  | unmapped mark parts =>
    "Mark " ++ toString mark ++ " has unmapped compiled primitives: " ++ partList parts
  | withoutValues dataset =>
    "Dataset " ++ toString dataset ++ " initialized without values"

end Note

inductive BindEvent where
  | dispatched (a : Action)
  /-- A sketch was handed to the compiler. -/
  | compiled (s : Sketch)
  /-- A stage began, with the envelope that it was given and the link of the mark in the
  application at that moment. -/
  | entered (stage : Stage) (e : Envelope) (link : Option Link)
  | consulted (e : Dataset.Event)
  | noted (n : Note)

/-- The remark that an event leaves in the log. -/
def BindEvent.note? : BindEvent → Option Note
  | noted n => some n
  | consulted (.withoutValues id) => some (.withoutValues id)
  | _ => none

/-! ## The binder -/

/-- The collaborators of a binder, with an extractor state `σ` and an application state `ω`. -/
structure Binder (σ ω : Type) where
  settings : Settings
  compiler : Compiler
  extractor : Extractor σ ω
  host : Host ω

/-- What changes as a binder works. -/
structure Workspace (σ ω : Type) where
  book : Sketchbook
  tools : σ
  world : ω

namespace Workspace

variable {σ ω : Type}

def withBook (w : Workspace σ ω) (book : Sketchbook) : Workspace σ ω := { w with book := book }

end Workspace

namespace Binder

variable {σ ω : Type}

abbrev Job (σ ω α : Type) := Task (Workspace σ ω) BindEvent α

def note (n : Note) : Job σ ω Unit := Task.emit [.noted n]

def editBook (f : Sketchbook → Sketchbook) : Job σ ω Unit :=
  Task.update fun w => w.withBook (f w.book)

def dispatch (b : Binder σ ω) (a : Action) : Job σ ω Unit := do
  Task.update fun w => { w with world := b.host.dispatch w.world a }
  Task.emit [.dispatched a]

def openSketch (mark : SceneMark) (id : MarkId) : Job σ ω Sketch := do
  let book := (← Task.state).book
  let s ← Task.ofAttempt (book.sketchFor id mark.type)
  editBook fun book => (book.setSketch id s).openIdentities id
  match book.newShape? id mark.type with
  | some shape => note (.sketchOpened shape id)
  | none => pure ()
  return s

/-- Makes sure that a mark is driven by the data set to be bound, and gives the mark as it then
is. -/
def link (b : Binder σ ω) (r : Binding) (mark : SceneMark) : Job σ ω SceneMark :=
  match mark.checkPipeline r.dataset with
  | .ok .established => pure mark
  | .ok .missing => do
    note (.linking r.mark r.dataset)
    b.dispatch (Action.link r.mark r.link)
    return { mark with link := some r.link }
  | .error f => do
    note (.rejected r.field.name r.mark f)
    Task.fail f

/-- Compiles a sketch with the rows that the bound data set shows. -/
def compile (b : Binder σ ω) (datasets : Dataset.Cache) (r : Binding) (s : Sketch) :
    Job σ ω Compiled := do
  Task.emit ((datasets.outputEvents r.dataset).map .consulted)
  let rows := datasets.output r.dataset
  note (.compiling s.shape r.property)
  Task.emit [.compiled (s.prepared r.property rows b.settings)]
  Task.ofAttempt (s.compile r.property rows b.settings b.compiler)

/-- Runs one stage. The identities that it leaves in the envelope are those of the mark from then
on, also if it fails. -/
def stage (b : Binder σ ω) (id : MarkId) (stage : Stage) (e : Envelope) : Job σ ω Envelope := do
  let w ← Task.state
  Task.emit [.entered stage e ((b.host.mark? w.world id).bind (·.link))]
  let report := b.extractor.perform stage w.tools w.world e
  Task.update fun w =>
    { book := w.book.setIdentities id report.envelope.identities
      tools := report.tools
      world := report.actions.foldl b.host.dispatch w.world }
  Task.emit (report.actions.map .dispatched)
  Task.ofAttempt report.result
  return report.envelope

/-- Runs stages one after another, up to the first that fails. -/
def extract (b : Binder σ ω) (id : MarkId) : List Stage → Envelope → Job σ ω Envelope
  | [], e => pure e
  | s :: rest, e => do
    let e ← b.stage id s e
    extract b id rest e

/-- The part of a binding that is one batch. -/
def bindInBatch (b : Binder σ ω) (datasets : Dataset.Cache) (r : Binding) (mark : SceneMark)
    (s : Sketch) : Job σ ω Unit := do
  let linked ← b.link r mark
  let d ← Task.ofAttempt r.field.channelDef
  let s := s.encode r.channel d
  editBook (·.setSketch r.mark s)
  let compiled ← b.compile datasets r s
  let identities := (← Task.state).book.identitiesFor r.mark
  let e ← b.extract r.mark Stage.all
    { input := compiled.input
      output := compiled.output
      identities := identities
      mark := linked
      markId := r.mark
      markType := mark.type
      property := r.property
      channel := r.channel
      dataset := r.dataset }
  if !e.unmapped.isEmpty then note (.unmapped r.mark e.unmapped)

def bind (b : Binder σ ω) (datasets : Dataset.Cache) (r : Binding) : Job σ ω Unit := do
  let w ← Task.state
  let mark ← Task.ofAttempt
    (Attempt.ofOption (b.host.mark? w.world r.mark) ("No mark with id " ++ toString r.mark))
  let s ← openSketch mark r.mark
  batch b.dispatch (b.bindInBatch datasets r mark s)

/-- Empties the channel of a property, so that later bindings no longer show it, and gives the
property its default. -/
def unbind (b : Binder σ ω) (mark : MarkId) (property : String) : Job σ ω Unit :=
  batch b.dispatch do
    editBook (·.editSketch mark (·.clear (Channel.ofProperty property)))
    b.dispatch (.resetVisual mark property)

def evict (mark : MarkId) : Job σ ω Unit := editBook (·.evict mark)

def reset : Job σ ω Unit := editBook fun _ => Sketchbook.empty

/-! ## Runs -/

/-- One call of a binder; a binding comes with the data sets of that moment. -/
inductive Request where
  | bind (datasets : Dataset.Cache) (r : Binding)
  | unbind (mark : MarkId) (property : String)
  | evict (mark : MarkId)
  | reset

def handle (b : Binder σ ω) : Request → Job σ ω Unit
  | .bind datasets r => b.bind datasets r
  | .unbind mark property => b.unbind mark property
  | .evict mark => Binder.evict mark
  | .reset => Binder.reset

end Binder

end ChartBinding
