import ChartBinding.Proofs.Inventory

/-!
# Scales sized from the plotting surface

A range spans an extent if it is the list of exactly two numbers, zero and the extent, in either
order (`Scale.Range.Spans`). The scales of which the range spans the width or the height are picked
from all scales that the walk of a chart shows, so they are told in the order in which an inventory
lists them, and each as often (`Chart.cellSizedScales_eq`). It does not matter which of the two
extents is the width.
-/

namespace ChartBinding

/-! ## Ranges -/

theorem Double.same_iff {x y : Double} : x.same y = true ↔ x.units = y.units :=
  beq_iff_eq

namespace Scale

/-- A range that goes from zero to an extent, or back. Numbers count by their value, so an integer
may be zero or the extent, and so may the negative zero. -/
def Range.Spans (extent : Double) (r : Range) : Prop :=
  ∃ v w x y, r = .list [v, w] ∧ v.number? = some x ∧ w.number? = some y ∧
    (x.units = 0 ∧ y.units = extent.units ∨ x.units = extent.units ∧ y.units = 0)

theorem Range.spans_iff {extent : Double} {r : Range} :
    r.spans extent = true ↔ r.Spans extent := by
  have zero : (Double.zero false).units = 0 := by decide +kernel
  constructor
  · intro spans
    unfold Range.spans at spans
    split at spans
    · next v w =>
        split at spans
        · next x y hv hw =>
            simp only [Bool.or_eq_true, Bool.and_eq_true, Double.same_iff, zero] at spans
            exact ⟨v, w, x, y, rfl, hv, hw, spans⟩
        · cases spans
    · cases spans
  · rintro ⟨v, w, x, y, rfl, hv, hw, sized⟩
    simp only [Range.spans, hv, hw, Bool.or_eq_true, Bool.and_eq_true, Double.same_iff, zero]
    exact sized

/-- A scale with a range that spans one of two extents. -/
def Spans (s : Scale) (width height : Double) : Prop :=
  ∃ r, s.range = some r ∧ (r.Spans width ∨ r.Spans height)

theorem isCellSized_iff {s : Scale} {width height : Double} :
    s.isCellSized width height = true ↔ s.Spans width height := by
  unfold isCellSized Spans
  cases s.range with
  | none => simp
  | some r => simp [Range.spans_iff]

instance (s : Scale) (width height : Double) : Decidable (s.Spans width height) :=
  decidable_of_iff _ isCellSized_iff

theorem spans_comm {s : Scale} {width height : Double} :
    s.Spans height width ↔ s.Spans width height := by
  unfold Spans
  simp only [or_comm]

end Scale

/-! ## The scales that a walk shows -/

/-- The scale that a station shows, if it shows one. -/
def Station.scales : Station → List Scale
  | .scale s _ => [s]
  | _ => []

theorem Contents.flatMap_partStations_scales (k : Contents) (scope : Scope) :
    (k.partStations scope).flatMap Station.scales = k.scales := by
  rw [flatMap_partStations]
  simp [Station.scales, flatMap_nothing]

namespace Chart

/-- The scales that the walk of a chart shows, each as often as it is shown. -/
def shownScales (c : Chart) : List Scale := c.stations.flatMap Station.scales

theorem shownScales_eq (c : Chart) :
    c.shownScales = c.contents.levels.flatMap fun k => k.scales := by
  have shown := Contents.flatMap_stations_of_parts Contents.flatMap_partStations_scales
    (fun _ _ => rfl) (fun _ _ => rfl) c.contents []
  rw [shownScales, stations_eq, List.flatMap_cons, shown]
  rfl

theorem scales_inventory (c : Chart) : c.inventory.scales = c.shownScales.map Scale.name := by
  have listed := c.names_inventory_eq_shown .scale
  rw [shownScales, List.map_flatMap]
  refine listed.trans (List.flatMap_congr fun t _ => ?_)
  cases t <;> rfl

/-- A walk notes the scale of a station if its range spans the width or the height. -/
theorem cellSizedCollector_next (width height : Double) (names : List String) (t : Station) :
    (cellSizedCollector width height).next names t =
      names ++ (t.scales.filter (Scale.Spans · width height)).map Scale.name := by
  cases t with
  | scale s scope =>
      show ((if s.isCellSized width height then
        (modify fun names => names ++ [s.name] : StateM (List String) Unit) else pure ()).run names).2
          = _
      by_cases sized : s.Spans width height
      · have kept : [s].filter (Scale.Spans · width height) = [s] := by simp [sized]
        rw [if_pos (Scale.isCellSized_iff.2 sized), Station.scales, kept]
        rfl
      · have dropped : [s].filter (Scale.Spans · width height) = [] := by simp [sized]
        rw [if_neg (mt Scale.isCellSized_iff.1 sized), Station.scales, dropped]
        exact (List.append_nil _).symm
  | _ => exact (List.append_nil _).symm

theorem cellSizedScales_eq (c : Chart) (width height : Double) :
    c.cellSizedScales width height =
      (c.shownScales.filter (Scale.Spans · width height)).map Scale.name := by
  have noted := c.collected (cellSizedCollector width height) id
    (cellSizedCollector_next width height) []
  rw [shownScales, List.filter_flatMap, List.map_flatMap]
  exact noted

/-- **Scales that were sized from the surface are told apart from all others.** Telling them never
fails. They are those of the scales shown by the walk, which are the scales of the chart and of
every group that a scope leads to, of which the range is the list of zero and the width or of zero
and the height. They are told by name, in the order of the walk and each once for every time it is
shown, as the inventory lists all scales; and with width and height exchanged they are the same. -/
theorem cellSized_picked_from_walk (c : Chart) (width height : Double) :
    (c.walk ((cellSizedCollector width height).fallible Failure)).run.run [] =
        (.ok (), c.cellSizedScales width height) ∧
      c.cellSizedScales width height =
        (c.shownScales.filter (Scale.Spans · width height)).map Scale.name ∧
      c.shownScales = c.contents.levels.flatMap (fun k => k.scales) ∧
      (∀ k, k ∈ c.contents.levels ↔ ∃ scope, c.contents.at? scope = some k) ∧
      c.inventory.scales = c.shownScales.map Scale.name ∧
      (c.cellSizedScales width height).Sublist c.inventory.scales ∧
      c.cellSizedScales height width = c.cellSizedScales width height := by
  have picked := c.cellSizedScales_eq
  refine ⟨c.run_walk_fallible _ Failure [], picked width height, c.shownScales_eq,
    fun k => Contents.mem_levels_iff, c.scales_inventory, ?_, ?_⟩
  · rw [picked, c.scales_inventory]
    exact List.filter_sublist.map Scale.name
  · rw [picked, picked]
    refine congrArg (List.map Scale.name) (List.filter_congr fun s _ => ?_)
    exact decide_eq_decide.2 Scale.spans_comm

end Chart

end ChartBinding
