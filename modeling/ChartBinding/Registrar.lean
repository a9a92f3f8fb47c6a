import ChartBinding.Binder

/-!
# The registrar

An extractor that makes a primitive for every part of a compiled chart that has no identity yet. All
primitives, of all kinds and marks, are numbered from one counter. Single stages may be skipped or
made to fail.
-/

namespace ChartBinding

/-- Which stages a registrar leaves out, and where it fails. -/
structure Registrar where
  failure : Option (Stage × Failure)
  skipped : List Stage

namespace Registrar

def full : Registrar := ⟨none, []⟩

abbrev Counter := UInt32

def actionKind : PrimitiveKind → String
  | .data => "ADD_PIPELINE"
  | .scale => "ADD_SCALE"
  | .axis => "ADD_AXIS"
  | .legend => "ADD_LEGEND"

def creation (kind : PrimitiveKind) (name : String) (id : PrimitiveId) : Action :=
  .custom (actionKind kind) (.obj [("id", Json.ofId id), ("name", .str name)])

/-- A counter, identities, and the actions that led to them. -/
structure Ledger where
  counter : Counter
  identities : Identities
  actions : List Action

namespace Ledger

def register (l : Ledger) (kind : PrimitiveKind) (name : String) : Ledger :=
  match l.identities.find? kind name with
  | some _ => l
  | none =>
    let id := l.counter + 1
    { counter := id
      identities := l.identities.insert kind name id
      actions := l.actions ++ [creation kind name id] }

def registerAll (l : Ledger) (kind : PrimitiveKind) (names : List String) : Ledger :=
  names.foldl (fun l n => l.register kind n) l

end Ledger

def kindsOf : Stage → List PrimitiveKind
  | .data => [.data]
  | .scales => [.scale]
  | .marks => []
  | .guides => [.axis, .legend]

def create (s : Stage) (counter : Counter) (e : Envelope) : Ledger :=
  let inventory := e.output.inventory
  (kindsOf s).foldl (fun l kind => l.registerAll kind (inventory.names kind))
    ⟨counter, e.identities, []⟩

/-- What the marks stage dispatches: the property follows the channel's scale and field. -/
def markActions (s : Stage) (e : Envelope) : List Action :=
  if s = .marks then
    [.updateMark e.markId e.property
      (.obj [("scale", .str e.channel), ("field", .str e.channel)])]
  else []

def work (s : Stage) (counter : Counter) (e : Envelope) : StageReport Counter :=
  let l := create s counter e
  { tools := l.counter
    envelope := { e with identities := l.identities }
    actions := l.actions ++ markActions s e
    result := .ok () }

/-- The registrar as an extractor. A stage that is to fail does nothing else. -/
def extractor {ω : Type} (r : Registrar) : Extractor Counter ω where
  perform s counter _ e :=
    match r.failure with
    | some (stage, f) =>
      if stage = s then ⟨counter, e, [], .error f⟩
      else if r.skipped.contains s then ⟨counter, e, [], .ok ()⟩
      else work s counter e
    | none =>
      if r.skipped.contains s then ⟨counter, e, [], .ok ()⟩
      else work s counter e

end Registrar

end ChartBinding
