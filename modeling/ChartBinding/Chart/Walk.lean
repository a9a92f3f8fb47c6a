import ChartBinding.Chart.Basic

/-!
# Walking a chart

A walk shows the parts of a chart to a visitor: the chart, then its data, scales, axes and legends,
then its marks in order. A group mark is announced and its contents follow at once, in the same
order; the contents of any other mark are not part of the walk.

Each part is shown with its *scope*, the path of group positions that leads to the group it stands
in: at each level the position among the groups there, other marks not counted. A group itself is
shown with the scope of its contents.

A visitor is any family of actions of a monad, so it may carry a state and may fail. The same walk
is also given as a list of its stations, `Chart.stations`.
-/

namespace ChartBinding

/-- The path of group positions from the chart to a group. -/
abbrev Scope := List Nat

inductive Station where
  | chart (c : Chart)
  | data (d : DataSource) (scope : Scope)
  | scale (s : Scale) (scope : Scope)
  | axis (a : Axis) (scope : Scope)
  | legend (l : Legend) (scope : Scope)
  | group (m : Mark) (scope : Scope)
  | mark (m : Mark) (scope : Scope)

structure Visitor (m : Type → Type) where
  chart : Chart → m Unit
  data : DataSource → Scope → m Unit
  scale : Scale → Scope → m Unit
  axis : Axis → Scope → m Unit
  legend : Legend → Scope → m Unit
  group : Mark → Scope → m Unit
  mark : Mark → Scope → m Unit

namespace Visitor

variable {m : Type → Type}

/-- The visitor that passes by everything. -/
def idle [Monad m] : Visitor m :=
  { chart := fun _ => pure ()
    data := fun _ _ => pure ()
    scale := fun _ _ => pure ()
    axis := fun _ _ => pure ()
    legend := fun _ _ => pure ()
    group := fun _ _ => pure ()
    mark := fun _ _ => pure () }

/-- The visitor that does the same with every station. -/
def ofStation (f : Station → m Unit) : Visitor m :=
  { chart := fun c => f (.chart c)
    data := fun d scope => f (.data d scope)
    scale := fun s scope => f (.scale s scope)
    axis := fun a scope => f (.axis a scope)
    legend := fun l scope => f (.legend l scope)
    group := fun g scope => f (.group g scope)
    mark := fun g scope => f (.mark g scope) }

def visit (v : Visitor m) : Station → m Unit
  | .chart c => v.chart c
  | .data d scope => v.data d scope
  | .scale s scope => v.scale s scope
  | .axis a scope => v.axis a scope
  | .legend l scope => v.legend l scope
  | .group g scope => v.group g scope
  | .mark g scope => v.mark g scope

end Visitor

/-! ## The walk -/

section

variable {m : Type → Type} [Monad m]

mutual

/-- Shows the contents of a group. -/
def Mark.walk (v : Visitor m) (scope : Scope) : Mark → m Unit
  | ⟨_, _, _, _, data, marks, scales, axes, legends, _⟩ => do
    data.forM fun d => v.data d scope
    scales.forM fun s => v.scale s scope
    axes.forM fun a => v.axis a scope
    legends.forM fun l => v.legend l scope
    Mark.walkAll v scope 0 marks

/-- Shows marks one after another, a group followed by its contents; `groups` groups came
before. -/
def Mark.walkAll (v : Visitor m) (scope : Scope) (groups : Nat) : List Mark → m Unit
  | [] => pure ()
  | g :: rest =>
    if g.isGroup then do
      v.group g (scope ++ [groups])
      Mark.walk v (scope ++ [groups]) g
      Mark.walkAll v scope (groups + 1) rest
    else do
      v.mark g scope
      Mark.walkAll v scope groups rest

end

/-- Shows a chart and all that is in it. -/
def Chart.walk (v : Visitor m) (c : Chart) : m Unit := do
  v.chart c
  c.data.forM fun d => v.data d []
  c.scales.forM fun s => v.scale s []
  c.axes.forM fun a => v.axis a []
  c.legends.forM fun l => v.legend l []
  Mark.walkAll v [] 0 c.marks

end

/-! ## The stations of a walk -/

mutual

def Mark.stations (scope : Scope) : Mark → List Station
  | ⟨_, _, _, _, data, marks, scales, axes, legends, _⟩ =>
    data.map (Station.data · scope) ++ scales.map (Station.scale · scope)
      ++ axes.map (Station.axis · scope) ++ legends.map (Station.legend · scope)
      ++ Mark.stationsOfAll scope 0 marks

def Mark.stationsOfAll (scope : Scope) (groups : Nat) : List Mark → List Station
  | [] => []
  | g :: rest =>
    if g.isGroup then
      .group g (scope ++ [groups]) :: Mark.stations (scope ++ [groups]) g
        ++ Mark.stationsOfAll scope (groups + 1) rest
    else .mark g scope :: Mark.stationsOfAll scope groups rest

end

def Chart.stations (c : Chart) : List Station :=
  .chart c :: (c.data.map (Station.data · []) ++ c.scales.map (Station.scale · [])
    ++ c.axes.map (Station.axis · []) ++ c.legends.map (Station.legend · [])
    ++ Mark.stationsOfAll [] 0 c.marks)

end ChartBinding
