import ChartBinding.Scene
import ChartBinding.Task

/-!
# Actions on the scene

Whatever changes in the application is an action. Actions between a start and the matching end are
one step for undo and redo; batches may nest. `batch` puts a task between the two, and the end is
dispatched whether the task fails or not.
-/

namespace ChartBinding

/-- A change in the application. -/
inductive Action where
  | startBatch
  | endBatch
  /-- Gives a property of a mark a value. -/
  | updateMark (mark : MarkId) (property : String) (value : Json)
  /-- Gives a visual property of a mark its default. -/
  | resetVisual (mark : MarkId) (property : String)
  /-- An action of the extraction stages. -/
  | custom (kind : String) (payload : Json)

namespace Action

def write : Action → Json
  | startBatch => .obj [("type", .str "StartBatch")]
  | endBatch => .obj [("type", .str "EndBatch")]
  | updateMark mark property value =>
    .obj [("type", .str "UpdateMarkProperty"), ("mark_id", Json.ofId mark),
      ("property", .str property), ("value", value)]
  | resetVisual mark property =>
    .obj [("type", .str "ResetMarkVisual"), ("mark_id", Json.ofId mark),
      ("property", .str property)]
  | custom kind payload =>
    .obj [("type", .str "Custom"), ("kind", .str kind), ("payload", payload)]

/-- The action that links a mark. -/
def link (mark : MarkId) (l : Link) : Action := updateMark mark "from" l.write

end Action

/-- The scene after an action. Only updates of `from` change it; they set the mark's link, and an
unreadable value unlinks it. -/
def Scene.apply (scene : Scene) : Action → Scene
  | .updateMark mark property value =>
    if property = "from" then
      match scene.find? mark with
      | some m => scene.insert mark { m with link := Link.ofJson? value }
      | none => scene
    else scene
  | _ => scene

def batch {σ ε α : Type} (dispatch : Action → Task σ ε Unit) (body : Task σ ε α) : Task σ ε α := do
  dispatch .startBatch
  body.thenAlways (dispatch .endBatch)

end ChartBinding
