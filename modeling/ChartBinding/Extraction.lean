import ChartBinding.Action
import ChartBinding.Compile
import ChartBinding.Identities

/-!
# Extraction

After a compilation, four stages carry the parts of the chart over into the application: data
pipelines first, then the scales that refer to them, then the marks that refer to scales, and the
guides last. An *extractor* says what each stage does. A stage works on an *envelope* with all that
is known about the binding; what it changes there is seen by the stages after it.
-/

namespace ChartBinding

inductive Stage where
  | data
  | scales
  | marks
  | guides
deriving DecidableEq

namespace Stage

/-- Every stage, in the order in which they run. -/
def all : List Stage := [data, scales, marks, guides]

def name : Stage → String
  | data => "data"
  | scales => "scales"
  | marks => "marks"
  | guides => "guides"

end Stage

/-- What the stages know about a binding. -/
structure Envelope where
  /-- The sketch as compiled, with every channel bound so far. -/
  input : Sketch
  output : Chart
  identities : Identities
  mark : SceneMark
  markId : MarkId
  markType : String
  property : String
  channel : Channel
  dataset : DatasetId

namespace Envelope

/-- The scales that were sized from the plotting surface. -/
def cellSizedScales (e : Envelope) : List String :=
  match e.input.config.cell with
  | some cell => e.output.cellSizedScales cell.width cell.height
  | none => []

/-- The parts of the chart that stand for no primitive yet. -/
def unmapped (e : Envelope) : List (PrimitiveKind × String) :=
  e.identities.unmapped e.output.inventory

end Envelope

/-- What a stage came to: the extractor's own state and the envelope that it leaves, the actions
that it dispatched, and whether it failed. -/
structure StageReport (σ : Type) where
  tools : σ
  envelope : Envelope
  actions : List Action
  result : Attempt Unit

/-- What is done in each stage. The extractor has a state `σ` of its own, and sees the application's
state `ω` as it is when the stage begins. -/
structure Extractor (σ ω : Type) where
  perform : Stage → σ → ω → Envelope → StageReport σ

end ChartBinding
