import ChartBinding.Failure
import ChartBinding.Identities
import ChartBinding.Proofs.Levels
import ChartBinding.Proofs.Walk
import Mathlib.Data.List.Forall2

/-!
# What an inventory lists

A visitor that puts what it finds at a station behind what it found before ends a walk with what
all stations give, in their order (`Chart.collected`). So an inventory lists the names of the parts
level by level (`Chart.names_inventory`) and the glyphs of the marks leaf by leaf
(`Chart.glyphs_inventory`).
-/

namespace ChartBinding

/-! ## Collecting along a walk -/

namespace Visitor

variable {σ : Type}

/-- The state in which a visitor leaves a station. -/
def next (v : Visitor (StateM σ)) (s : σ) (t : Station) : σ := ((v.visit t).run s).2

/-- A visitor that cannot fail, among those that may. -/
def fallible (ε : Type) (v : Visitor (StateM σ)) : Fallible ε σ :=
  .ofStation fun t => ExceptT.lift (v.visit t)

variable (v : Visitor (StateM σ))

theorem react_fallible (ε : Type) (s : σ) (t : Station) :
    (v.fallible ε).react s t = (.ok (), v.next s t) := by
  cases t <;> rfl

theorem run_forM_eq_foldl (ts : List Station) : ∀ s : σ,
    (ts.forM v.visit).run s = ((), ts.foldl v.next s) := by
  induction ts with
  | nil =>
      intro s
      rfl
  | cons t rest ih =>
      intro s
      exact ih (v.next s t)

/-- Nothing stops a visitor that cannot fail. -/
theorem showAll_fallible (ε : Type) (ts : List Station) : ∀ s : σ,
    (v.fallible ε).showAll s ts = ⟨ts, .ok (), ts.foldl v.next s⟩ :=
  showAll_of_never_fails _ (v.react_fallible ε) ts

theorem foldl_next {α : Type} {list : σ → List α} {found : Station → List α}
    (adds : ∀ s t, list (v.next s t) = list s ++ found t) (ts : List Station) : ∀ s : σ,
    list (ts.foldl v.next s) = list s ++ ts.flatMap found := by
  induction ts with
  | nil =>
      intro s
      exact (List.append_nil _).symm
  | cons t rest ih =>
      intro s
      rw [List.foldl_cons, ih, adds, List.flatMap_cons, List.append_assoc]

end Visitor

namespace Chart

variable {σ : Type} (c : Chart) (v : Visitor (StateM σ))

theorem run_walk (s : σ) : (c.walk v).run s = ((), c.stations.foldl v.next s) := by
  rw [walk_eq_forM, v.run_forM_eq_foldl]

/-- A walk of a visitor that cannot fail does not fail. -/
theorem run_walk_fallible (ε : Type) (s : σ) :
    (c.walk (v.fallible ε)).run.run s = (.ok (), ((c.walk v).run s).2) := by
  rw [walk_eq_forM, Visitor.run_forM, v.showAll_fallible, run_walk]

/-- A list to which a visitor adds what it finds at each station ends a walk with all that is found
there, in the order of the stations. -/
theorem collected {α : Type} (list : σ → List α) {found : Station → List α}
    (adds : ∀ s t, list (v.next s t) = list s ++ found t) (s : σ) :
    list ((c.walk v).run s).2 = list s ++ c.stations.flatMap found := by
  rw [run_walk]
  exact v.foldl_next adds c.stations s

end Chart

/-! ## Names -/

/-- The scale that names a legend: the first in the order fill, stroke, size, shape, opacity. -/
def Legend.first? (l : Legend) : Option String :=
  l.fill <|> l.stroke <|> l.size <|> l.shape <|> l.opacity

theorem Legend.take_scales (l : Legend) : l.scales.take 1 = l.first?.toList := by
  obtain ⟨fill, stroke, size, shape, opacity, extra⟩ := l
  cases fill <;> cases stroke <;> cases size <;> cases shape <;> cases opacity <;> rfl

/-- The names of a kind that stand at one level. -/
def Contents.names (k : Contents) : PrimitiveKind → List String
  | .data => k.data.map (·.name)
  | .scale => k.scales.map (·.name)
  | .axis => k.axes.map (·.scale)
  | .legend => k.legends.filterMap Legend.first?

/-- The name that a station shows, if it is of a kind. -/
def Station.names (kind : PrimitiveKind) : Station → List String
  | .data d _ => if kind = .data then [d.name] else []
  | .scale s _ => if kind = .scale then [s.name] else []
  | .axis a _ => if kind = .axis then [a.scale] else []
  | .legend l _ => if kind = .legend then l.first?.toList else []
  | _ => []

theorem Inventory.names_next (kind : PrimitiveKind) (i : Inventory) (t : Station) :
    (collector.next i t).names kind = i.names kind ++ t.names kind := by
  cases t with
  | legend l scope =>
      have named : (collector.next i (.legend l scope)).legends = i.legends ++ l.first?.toList := by
        rw [← l.take_scales]
        rfl
      cases kind with
      | legend => exact named
      | _ => exact (List.append_nil _).symm
  | chart | group | mark => exact (List.append_nil _).symm
  | data | scale | axis =>
      cases kind <;> first | rfl | exact (List.append_nil _).symm

theorem Contents.flatMap_partStations_names (kind : PrimitiveKind) (k : Contents) (scope : Scope) :
    (k.partStations scope).flatMap (·.names kind) = k.names kind := by
  rw [flatMap_partStations]
  cases kind <;>
    simp [names, Station.names, flatMap_nothing, List.map_eq_flatMap,
      List.filterMap_eq_flatMap_toList]

/-- An inventory lists the names of a kind as the walk shows them. -/
theorem Chart.names_inventory_eq_shown (c : Chart) (kind : PrimitiveKind) :
    c.inventory.names kind = c.stations.flatMap (·.names kind) := by
  have noted := c.collected _ (·.names kind) (Inventory.names_next kind) Inventory.empty
  cases kind <;> exact noted

theorem Chart.names_inventory (c : Chart) (kind : PrimitiveKind) :
    c.inventory.names kind = c.contents.levels.flatMap (·.names kind) := by
  have shown := Contents.flatMap_stations_of_parts (Contents.flatMap_partStations_names kind)
    (fun _ _ => rfl) (fun _ _ => rfl) c.contents []
  rw [names_inventory_eq_shown, Chart.stations_eq, List.flatMap_cons, shown]
  rfl

/-! ## Glyphs -/

/-- The glyph that a station shows, if it is one of a mark. -/
def Station.glyphs : Station → List Glyph
  | .mark m _ => [m.glyph]
  | _ => []

theorem Inventory.glyphs_next (i : Inventory) (t : Station) :
    (collector.next i t).glyphs = i.glyphs ++ t.glyphs := by
  cases t with
  | mark => rfl
  | _ => exact (List.append_nil _).symm

theorem Contents.flatMap_partStations_glyphs (k : Contents) (scope : Scope) :
    (k.partStations scope).flatMap Station.glyphs = [] := by
  rw [flatMap_partStations]
  simp [Station.glyphs]

theorem Chart.glyphs_inventory (c : Chart) :
    c.inventory.glyphs = c.contents.leaves.map Mark.glyph := by
  have noted := c.collected _ (·.glyphs) Inventory.glyphs_next Inventory.empty
  have shown := Contents.flatMap_stations_of_marks Contents.flatMap_partStations_glyphs
    (fun _ _ => rfl) (fun _ _ => rfl) c.contents []
  rw [Chart.stations_eq, List.flatMap_cons, shown, ← List.map_eq_flatMap] at noted
  exact noted

/-- What a glyph tells of a mark. -/
structure Glyph.Shows (g : Glyph) (m : Mark) : Prop where
  name : g.name = m.name
  kind : g.kind = m.kind
  /-- The data source that the mark draws from, if it draws from one. -/
  data : ∀ d, g.data = some d ↔ ∃ source, m.source = some source ∧ source.data = some d
  /-- The properties that the mark sets on updates. -/
  channels : ∀ p, p ∈ g.channels ↔
    ∃ e ∈ m.encoding, ∃ set ∈ e.find? "update", (set.find? p).isSome
  /-- Each property is told once, and in order. -/
  increasing : g.channels.Pairwise (· < ·)

theorem Table.mem_keys_iff {α : Type} {t : Table String α} {k : String} :
    k ∈ t.keys ↔ (t.find? k).isSome = true := by
  rw [keys, find?]
  induction t.entries with
  | nil => simp [Entries.find?]
  | cons e rest ih =>
      by_cases here : k = e.1
      · simp [Entries.find?, here]
      · simp [Entries.find?, here, ih]

theorem Table.keys_increasing {α : Type} (t : Table String α) : t.keys.Pairwise (· < ·) :=
  List.pairwise_map.2 (t.increasing.imp compareOfLessAndEq_eq_lt.1)

theorem Mark.mem_channels_iff {m : Mark} {occasion p : String} :
    p ∈ m.channels occasion ↔ ∃ e ∈ m.encoding, ∃ set ∈ e.find? occasion, (set.find? p).isSome := by
  rw [channels]
  cases m.encoding with
  | none => simp
  | some e =>
      show p ∈ ((e.find? occasion).map Table.keys).getD [] ↔ _
      cases found : e.find? occasion with
      | none => simp [found]
      | some set => simp [found, Table.mem_keys_iff]

theorem Mark.channels_increasing (m : Mark) (occasion : String) :
    (m.channels occasion).Pairwise (· < ·) := by
  rw [channels]
  cases m.encoding with
  | none => exact .nil
  | some e =>
      show (((e.find? occasion).map Table.keys).getD []).Pairwise (· < ·)
      cases e.find? occasion with
      | none => exact .nil
      | some set => exact set.keys_increasing

theorem Mark.shows_glyph (m : Mark) : m.glyph.Shows m where
  name := rfl
  kind := rfl
  data _ := Option.bind_eq_some_iff
  channels _ := mem_channels_iff
  increasing := m.channels_increasing "update"

/-! ## The inventory of a chart -/

/-- **An inventory lists every part once.** Taking it never fails. The names of data, scales and
axes and the first scales of legends are listed level by level, and level by level means the chart
and every group that a scope leads to; the glyphs are listed leaf by leaf, and no leaf is a
group. -/
theorem Chart.inventory_is_complete (c : Chart) :
    (c.walk (Inventory.collector.fallible Failure)).run.run Inventory.empty =
        (.ok (), c.inventory) ∧
      (∀ k, k ∈ c.contents.levels ↔ ∃ scope, c.contents.at? scope = some k) ∧
      c.inventory.data = c.contents.levels.flatMap (fun k => k.data.map (·.name)) ∧
      c.inventory.scales = c.contents.levels.flatMap (fun k => k.scales.map (·.name)) ∧
      c.inventory.axes = c.contents.levels.flatMap (fun k => k.axes.map (·.scale)) ∧
      c.inventory.legends = c.contents.levels.flatMap (fun k => k.legends.filterMap Legend.first?) ∧
      List.Forall₂ Glyph.Shows c.inventory.glyphs c.contents.leaves ∧
      ∀ m ∈ c.contents.leaves, m.isGroup = false := by
  refine ⟨c.run_walk_fallible _ Failure _, fun _ => Contents.mem_levels_iff,
    c.names_inventory .data, c.names_inventory .scale, c.names_inventory .axis,
    c.names_inventory .legend, ?_, fun _ => Contents.isGroup_of_mem_leaves⟩
  rw [c.glyphs_inventory, List.forall₂_map_left_iff]
  exact List.forall₂_same.2 fun m _ => m.shows_glyph

end ChartBinding
