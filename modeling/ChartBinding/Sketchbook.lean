import ChartBinding.Identities
import ChartBinding.Scene
import ChartBinding.Sketch.Basic

/-!
# The sketchbook

The sketchbook keeps, for each mark of the scene, the sketch that its bindings have put together and
the identities of its compiled parts. Both are made when they are first needed and live until the
mark is evicted or the book is reset. The type of a mark counts only when its sketch is made.
-/

namespace ChartBinding

structure Sketchbook where
  sketches : Table MarkId Sketch
  identities : Table MarkId Identities

namespace Sketchbook

def empty : Sketchbook := ⟨∅, ∅⟩

def sketch? (b : Sketchbook) (mark : MarkId) : Option Sketch := b.sketches.find? mark

def identities? (b : Sketchbook) (mark : MarkId) : Option Identities := b.identities.find? mark

/-- The identities of a mark as its next binding will find them. -/
def identitiesFor (b : Sketchbook) (mark : MarkId) : Identities :=
  (b.identities? mark).getD Identities.empty

def setSketch (b : Sketchbook) (mark : MarkId) (s : Sketch) : Sketchbook :=
  { b with sketches := b.sketches.insert mark s }

def setIdentities (b : Sketchbook) (mark : MarkId) (i : Identities) : Sketchbook :=
  { b with identities := b.identities.insert mark i }

/-- Whether opening the sketch of a mark makes it, and of which shape. -/
def newShape? (b : Sketchbook) (mark : MarkId) (type : String) : Option Shape :=
  match b.sketch? mark with
  | some _ => none
  | none => Shape.ofMarkType? type

/-- The sketch of a mark, made from its type if there is none yet. -/
def sketchFor (b : Sketchbook) (mark : MarkId) (type : String) : Attempt Sketch :=
  match b.sketch? mark with
  | some s => .ok s
  | none => (Shape.ofMarkType type).map Sketch.ofShape

/-- The book in which a mark has a sketch. -/
def openSketch (b : Sketchbook) (mark : MarkId) (type : String) : Attempt Sketchbook :=
  (b.sketchFor mark type).map (b.setSketch mark)

/-- The book in which a mark has identities. -/
def openIdentities (b : Sketchbook) (mark : MarkId) : Sketchbook :=
  b.setIdentities mark (b.identitiesFor mark)

/-- The book in which a mark has both. If its type has no shape, neither is made. -/
def openBoth (b : Sketchbook) (mark : MarkId) (type : String) : Attempt Sketchbook :=
  (b.openSketch mark type).map (·.openIdentities mark)

def editSketch (b : Sketchbook) (mark : MarkId) (f : Sketch → Sketch) : Sketchbook :=
  match b.sketch? mark with
  | some s => b.setSketch mark (f s)
  | none => b

/-- Changes the identities of a mark, made empty if there are none. -/
def editIdentities (b : Sketchbook) (mark : MarkId) (f : Identities → Identities) : Sketchbook :=
  b.setIdentities mark (f (b.identitiesFor mark))

def evict (b : Sketchbook) (mark : MarkId) : Sketchbook :=
  ⟨b.sketches.erase mark, b.identities.erase mark⟩

end Sketchbook

end ChartBinding
