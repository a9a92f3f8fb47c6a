import ChartBinding.Chart.Inventory
import ChartBinding.Proofs.Walk

/-!
# Contents in a chart and in a group

The same contents are walked in the same way wherever they stand: a walk through a group at a scope
is the walk through the contents as those of a chart, with that scope put in front of all scopes
(`Contents.walk_below`). So a visitor to which scopes mean nothing, and which passes by charts and
groups, does not notice when all that a chart holds is moved into one group
(`Visitor.IsBlind.walk_inGroup`).
-/

namespace ChartBinding

/-- The same station, deeper: its scope continues `s`. The chart has no scope. -/
def Station.under (s : Scope) : Station → Station
  | .chart c => .chart c
  | .data d scope => .data d (s ++ scope)
  | .scale x scope => .scale x (s ++ scope)
  | .axis a scope => .axis a (s ++ scope)
  | .legend l scope => .legend l (s ++ scope)
  | .group g scope => .group g (s ++ scope)
  | .mark g scope => .mark g (s ++ scope)

/-- The visitor that shows `v` all that it is shown, but below `s`. -/
def Visitor.below {m : Type → Type} (v : Visitor m) (s : Scope) : Visitor m :=
  .ofStation fun t => v.visit (t.under s)

/-- The mark with other contents. -/
def Mark.holding (g : Mark) (k : Contents) : Mark :=
  { g with data := k.data, marks := k.marks, scales := k.scales, axes := k.axes,
           legends := k.legends }

/-- The group with these contents that is otherwise like a mark. -/
def Mark.grouping (g : Mark) (k : Contents) : Mark := { g.holding k with kind := "group" }

theorem Mark.isGroup_grouping (g : Mark) (k : Contents) : (g.grouping k).isGroup = true := rfl

/-- The chart with all its contents moved into a single group, otherwise like `g`. -/
def Chart.inGroup (c : Chart) (g : Mark) : Chart :=
  { c with data := [], marks := [g.grouping c.contents], scales := [], axes := [], legends := [] }

/-! ## Walks -/

section

variable {m : Type → Type} [Monad m] (v : Visitor m) (s : Scope)

mutual

/-- A mark that is walked below `s` is walked at a scope that continues `s`. -/
theorem Mark.walk_below (scope : Scope) : ∀ g : Mark,
    g.walk (v.below s) scope = g.walk v (s ++ scope)
  | ⟨_, _, _, _, data, marks, scales, axes, legends, _⟩ => by
      rw [Mark.walk, Mark.walk, Mark.walkAll_below scope 0 marks]
      rfl

theorem Mark.walkAll_below (scope : Scope) (n : Nat) : ∀ gs : List Mark,
    Mark.walkAll (v.below s) scope n gs = Mark.walkAll v (s ++ scope) n gs
  | [] => rfl
  | g :: rest => by
      rw [Mark.walkAll, Mark.walkAll, Mark.walk_below (scope ++ [n]) g,
        Mark.walkAll_below scope n rest, Mark.walkAll_below scope (n + 1) rest,
        List.append_assoc s scope [n]]
      -- what is left to compare are the reactions to the mark itself
      rfl

end

theorem Contents.walk_below (k : Contents) (scope : Scope) :
    k.walk (v.below s) scope = k.walk v (s ++ scope) := by
  rw [walk, walk, Mark.walkAll_below]
  rfl

/-- The walk through a chart, below `s`, is that through a group at `s` which holds the same. -/
theorem Chart.walk_below (c : Chart) (g : Mark) :
    c.walk (v.below s) = (do v.chart c; (g.holding c.contents).walk v s) := by
  have same : (g.holding c.contents).contents = c.contents := rfl
  rw [Chart.walk_eq, Contents.walk_below, List.append_nil, Mark.walk_eq, same]
  rfl

/-- A visitor that passes by charts and groups and to which scopes mean nothing. -/
structure Visitor.IsBlind : Prop where
  chart : ∀ c, v.chart c = pure ()
  group : ∀ g scope, v.group g scope = pure ()
  below : ∀ s, v.below s = v

variable {v}

theorem Visitor.IsBlind.walk_inGroup [LawfulMonad m] (blind : v.IsBlind) (c : Chart) (g : Mark) :
    (c.inGroup g).walk v = c.walk v := by
  -- to a blind visitor the walk below the group is the walk through the chart
  have inside : c.contents.walk v [0] = c.contents.walk v [] := by
    have deeper := Contents.walk_below v [0] c.contents []
    rw [blind.below] at deeper
    exact deeper.symm
  have grouped : Mark.walkAll v [] 0 [g.grouping c.contents] = c.contents.walk v [] := by
    rw [Mark.walkAll, if_pos (g.isGroup_grouping c.contents), Mark.walkAll, Mark.walk_eq,
      blind.group, pure_bind, bind_pure_unit]
    exact inside
  have emptied : (c.inGroup g).contents.walk v [] = c.contents.walk v [] := by
    show (pure () >>= fun _ => pure () >>= fun _ => pure () >>= fun _ => pure () >>= fun _ =>
      Mark.walkAll v [] 0 [g.grouping c.contents]) = _
    simp only [pure_bind, grouped]
  rw [Chart.walk_eq, Chart.walk_eq, blind.chart, blind.chart, emptied]

end

/-! ## Stations -/

mutual

theorem Mark.stations_under (s scope : Scope) : ∀ g : Mark,
    g.stations (s ++ scope) = (g.stations scope).map (·.under s)
  | ⟨_, _, _, _, data, marks, scales, axes, legends, _⟩ => by
      rw [Mark.stations, Mark.stations, Mark.stationsOfAll_under s scope 0 marks]
      simp only [List.map_append, List.map_map]
      rfl

theorem Mark.stationsOfAll_under (s scope : Scope) (n : Nat) : ∀ gs : List Mark,
    Mark.stationsOfAll (s ++ scope) n gs = (Mark.stationsOfAll scope n gs).map (·.under s)
  | [] => rfl
  | g :: rest => by
      cases hg : g.isGroup with
      | false =>
          rw [Mark.stationsOfAll_mark hg, Mark.stationsOfAll_mark hg,
            Mark.stationsOfAll_under s scope n rest]
          rfl
      | true =>
          rw [Mark.stationsOfAll_group hg, Mark.stationsOfAll_group hg, ← Mark.stations_eq,
            ← Mark.stations_eq, List.append_assoc, Mark.stations_under s (scope ++ [n]) g,
            Mark.stationsOfAll_under s scope (n + 1) rest, List.map_append]
          rfl

end

theorem Contents.stations_under (k : Contents) (s scope : Scope) :
    k.stations (s ++ scope) = (k.stations scope).map (·.under s) := by
  rw [stations, stations, Mark.stationsOfAll_under, partStations, partStations]
  simp only [List.map_append, List.map_map]
  rfl

/-! ## Blind visitors -/

theorem Inventory.isBlind_collector : collector.IsBlind :=
  ⟨fun _ => rfl, fun _ _ => rfl, fun _ => rfl⟩

theorem Chart.isBlind_cellSizedCollector (width height : Double) :
    (cellSizedCollector width height).IsBlind :=
  ⟨fun _ => rfl, fun _ _ => rfl, fun _ => rfl⟩

/-- **Charts and groups are walked alike.** In any monad, the walk through a mark at scope `s` is
that through a chart which holds the same, after the chart itself was shown and with `s` in front of
every scope; and so are its stations. Moving all that a chart holds into one group changes neither
its inventory nor the scales that span its surface. -/
theorem Chart.walks_agree (c : Chart) (g : Mark) :
    (∀ s : Scope,
      (∀ (m : Type → Type) [Monad m] (v : Visitor m),
        c.walk (v.below s) = (do v.chart c; (g.holding c.contents).walk v s)) ∧
      c.stations.map (·.under s) = .chart c :: (g.holding c.contents).stations s) ∧
      (c.inGroup g).inventory = c.inventory ∧
      ∀ width height,
        (c.inGroup g).cellSizedScales width height = c.cellSizedScales width height := by
  refine ⟨fun s => ⟨fun m _ v => Chart.walk_below v s c g, ?_⟩, ?_, fun width height => ?_⟩
  · have deeper := c.contents.stations_under s []
    rw [List.append_nil] at deeper
    rw [Chart.stations_eq, Mark.stations_eq, List.map_cons, ← deeper]
    rfl
  · rw [Chart.inventory, Inventory.isBlind_collector.walk_inGroup]
    rfl
  · rw [Chart.cellSizedScales, (Chart.isBlind_cellSizedCollector width height).walk_inGroup]
    rfl

end ChartBinding
