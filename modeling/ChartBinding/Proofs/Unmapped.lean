import ChartBinding.Proofs.Inventory

/-!
# Parts that stand for no primitive yet

The unmapped parts of an inventory are its parts, in their order, of which the identities have no
entry (`Identities.unmapped_eq_filter`). An entry that is put in takes away its own part, as often
as it is listed, and nothing else (`Identities.unmapped_insert`). So after any history of entries
what is left is the list from before without the parts that were entered
(`Identities.unmapped_insertAll`), and it is empty once the identities cover all levels of the chart.
-/

namespace ChartBinding

/-! ## The parts of an inventory -/

/-- The parts of an inventory: data, scales, axes and legends, each kind in walk order. -/
def Inventory.parts (inventory : Inventory) : List (PrimitiveKind × String) :=
  PrimitiveKind.all.flatMap fun kind => (inventory.names kind).map fun name => (kind, name)

theorem Inventory.mem_parts_iff {inventory : Inventory} {kind : PrimitiveKind} {name : String} :
    (kind, name) ∈ inventory.parts ↔ name ∈ inventory.names kind := by
  rw [parts, List.mem_flatMap]
  constructor
  · rintro ⟨kind', -, listed⟩
    obtain ⟨name', listed, same⟩ := List.mem_map.1 listed
    cases same
    exact listed
  · intro listed
    exact ⟨kind, by cases kind <;> decide, List.mem_map.2 ⟨name, listed, rfl⟩⟩

/-- The names of a kind that a walk shows, each as often as it is shown. -/
def Chart.shown (c : Chart) (kind : PrimitiveKind) : List String :=
  c.stations.flatMap (·.names kind)

/-- Those of a list of names that a table has no entry for. -/
def Table.missing {α : Type} (t : Table String α) (names : List String) : List String :=
  names.filter fun name => (t.find? name).isNone

namespace Identities

/-! ## Entries -/

/-- A name that is put in, with the primitive that it stands for. -/
structure Entry where
  kind : PrimitiveKind
  name : String
  id : PrimitiveId

/-- The part that an entry is for. -/
def Entry.part (e : Entry) : PrimitiveKind × String := (e.kind, e.name)

/-- Identities after entries are put in one after another. -/
def insertAll (i : Identities) (entries : List Entry) : Identities :=
  entries.foldl (fun i e => i.insert e.kind e.name e.id) i

/-- Every part of a chart or group that stands at one level has an entry under its kind. -/
structure Covers (i : Identities) (k : Contents) : Prop where
  data : ∀ d ∈ k.data, (i.data.find? d.name).isSome
  scales : ∀ s ∈ k.scales, (i.scales.find? s.name).isSome
  axes : ∀ a ∈ k.axes, (i.axes.find? a.scale).isSome
  /-- A legend without a scale has no name and needs no entry. -/
  legends : ∀ l ∈ k.legends, ∀ name, l.first? = some name → (i.legends.find? name).isSome

theorem covers_iff {i : Identities} {k : Contents} :
    i.Covers k ↔ ∀ kind, ∀ name ∈ k.names kind, (i.find? kind name).isSome := by
  constructor
  · intro covers kind name named
    cases kind with
    | data =>
        obtain ⟨d, held, rfl⟩ := List.mem_map.1 named
        exact covers.data d held
    | scale =>
        obtain ⟨s, held, rfl⟩ := List.mem_map.1 named
        exact covers.scales s held
    | axis =>
        obtain ⟨a, held, rfl⟩ := List.mem_map.1 named
        exact covers.axes a held
    | legend =>
        obtain ⟨l, held, first⟩ := List.mem_filterMap.1 named
        exact covers.legends l held name first
  · intro known
    exact
      { data := fun d held => known .data d.name (List.mem_map.2 ⟨d, held, rfl⟩)
        scales := fun s held => known .scale s.name (List.mem_map.2 ⟨s, held, rfl⟩)
        axes := fun a held => known .axis a.scale (List.mem_map.2 ⟨a, held, rfl⟩)
        legends := fun l held name first =>
          known .legend name (List.mem_filterMap.2 ⟨l, held, first⟩) }

/-! ## What is left -/

theorem unmapped_eq_filter (i : Identities) (inventory : Inventory) :
    i.unmapped inventory = inventory.parts.filter fun p => (i.find? p.1 p.2).isNone := by
  rw [unmapped, Inventory.parts, List.filter_flatMap]
  refine List.flatMap_congr fun kind _ => ?_
  rw [unmappedOf, List.filter_map]
  rfl

theorem unmapped_eq_nil_iff {i : Identities} {inventory : Inventory} :
    i.unmapped inventory = [] ↔
      ∀ kind, ∀ name ∈ inventory.names kind, (i.find? kind name).isSome := by
  rw [unmapped_eq_filter, List.filter_eq_nil_iff]
  constructor
  · intro none kind name listed
    have known := none (kind, name) (Inventory.mem_parts_iff.2 listed)
    rw [Option.isNone_iff_eq_none] at known
    exact Option.ne_none_iff_isSome.1 known
  · rintro known ⟨kind, name⟩ listed
    rw [Option.isNone_iff_eq_none]
    exact Option.ne_none_iff_isSome.2 (known kind name (Inventory.mem_parts_iff.1 listed))

/-- What is left after one entry is what was left before, without the part of the entry. -/
theorem unmapped_insert (i : Identities) (inventory : Inventory) (kind : PrimitiveKind)
    (name : String) (id : PrimitiveId) :
    (i.insert kind name id).unmapped inventory =
      (i.unmapped inventory).filter fun p => p ≠ (kind, name) := by
  rw [unmapped_eq_filter, unmapped_eq_filter, List.filter_filter]
  refine List.filter_congr fun p _ => ?_
  rw [find?_insert]
  by_cases own : p = (kind, name)
  · simp [own]
  · have other : ¬ (p.1 = kind ∧ p.2 = name) := fun same => own (Prod.ext same.1 same.2)
    simp [own, other]

theorem unmapped_insertAll (inventory : Inventory) (entries : List Entry) : ∀ i : Identities,
    (i.insertAll entries).unmapped inventory =
      (i.unmapped inventory).filter fun p => p ∉ entries.map Entry.part := by
  induction entries with
  | nil =>
      intro i
      exact (List.filter_eq_self.2 fun p _ => decide_eq_true List.not_mem_nil).symm
  | cons e rest ih =>
      intro i
      show ((i.insert e.kind e.name e.id).insertAll rest).unmapped inventory = _
      rw [ih, unmapped_insert, List.filter_filter]
      refine List.filter_congr fun p _ => ?_
      rw [List.map_cons, ← Bool.decide_and]
      exact decide_eq_decide.2 (by rw [List.mem_cons, not_or, and_comm]; rfl)

example : (empty.insertAll [⟨.data, "source", 11⟩, ⟨.scale, "x", 12⟩]).unmapped
      ⟨["source", "summary"], ["x", "y", "y"], ["x"], [], []⟩ =
    [(.data, "summary"), (.scale, "y"), (.scale, "y"), (.axis, "x")] := by
  decide

/-- A chart is wholly mapped when all its levels are covered. -/
theorem unmapped_inventory_eq_nil_iff {i : Identities} {c : Chart} :
    i.unmapped c.inventory = [] ↔ ∀ k ∈ c.contents.levels, i.Covers k := by
  rw [unmapped_eq_nil_iff]
  simp only [c.names_inventory, List.mem_flatMap, covers_iff]
  constructor
  · intro known k level kind name named
    exact known kind name ⟨k, level, named⟩
  · rintro known kind name ⟨k, level, named⟩
    exact known k level kind name named

/-- **What is unmapped is what was never entered under its kind.** The unmapped parts of a chart are
the names that its walk shows, kind by kind, each as often as it is shown, which the table of their
kind does not have. After any entries they are those from before without the parts that were
entered, so a name entered under other kinds only is left as often as before. And none are left
exactly when the tables cover the chart and every group that a scope leads to. -/
theorem unmapped_is_what_was_never_entered (i : Identities) (c : Chart) (entries : List Entry) :
    i.unmapped c.inventory =
        (i.data.missing (c.shown .data)).map (fun name => (.data, name))
          ++ (i.scales.missing (c.shown .scale)).map (fun name => (.scale, name))
          ++ (i.axes.missing (c.shown .axis)).map (fun name => (.axis, name))
          ++ (i.legends.missing (c.shown .legend)).map (fun name => (.legend, name)) ∧
      (i.insertAll entries).unmapped c.inventory =
        (i.unmapped c.inventory).filter (fun p => p ∉ entries.map Entry.part) ∧
      (∀ kind name, (∀ e ∈ entries, e.kind = kind → e.name ≠ name) →
        ((i.insertAll entries).unmapped c.inventory).count (kind, name) =
          (i.unmapped c.inventory).count (kind, name)) ∧
      (i.unmapped c.inventory = [] ↔
        ∀ scope k, c.contents.at? scope = some k → i.Covers k) := by
  have left := unmapped_insertAll c.inventory entries i
  refine ⟨?_, left, ?_, ?_⟩
  · have ofKind (kind : PrimitiveKind) : i.unmappedOf c.inventory kind =
        ((i.entries kind).missing (c.shown kind)).map fun name => (kind, name) := by
      rw [unmappedOf, c.names_inventory_eq_shown]
      rfl
    simp only [unmapped, PrimitiveKind.all, List.flatMap_cons, List.flatMap_nil, List.append_nil,
      ofKind, List.append_assoc]
    rfl
  · intro kind name other
    rw [left]
    refine List.count_filter (decide_eq_true fun entered => ?_)
    obtain ⟨e, held, same⟩ := List.mem_map.1 entered
    cases same
    exact other e held rfl rfl
  · rw [unmapped_inventory_eq_nil_iff]
    simp only [Contents.mem_levels_iff]
    constructor
    · intro covers scope k leads
      exact covers k ⟨scope, leads⟩
    · rintro covers k ⟨scope, leads⟩
      exact covers scope k leads

end Identities

end ChartBinding
