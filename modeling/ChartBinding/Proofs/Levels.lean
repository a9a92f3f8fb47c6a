import ChartBinding.Proofs.Stations

/-!
# The levels of a chart

The *levels* of a chart are its contents and those of the groups in it, a group before the groups
that it holds (`Contents.levels`); its *leaves* are the marks that are no groups, in the order in
which they are drawn (`Contents.leaves`). The levels are what the scopes lead to
(`Contents.mem_levels_iff`).

Levels and leaves give the stations of a chart kind by kind. What the stations of data, scales and
guides contribute to a list comes level by level (`Contents.flatMap_stations_of_parts`), and what
those of marks contribute comes leaf by leaf (`Contents.flatMap_stations_of_marks`).
-/

namespace ChartBinding

/-! ## Levels and leaves -/

mutual

/-- What a mark holds and what the groups in it hold, depth first. -/
def Mark.levels : Mark → List Contents
  | ⟨_, _, _, _, data, marks, scales, axes, legends, _⟩ =>
    ⟨data, scales, axes, legends, marks⟩ :: Mark.levelsOfAll marks

/-- The levels of those marks that are groups. -/
def Mark.levelsOfAll : List Mark → List Contents
  | [] => []
  | g :: rest => (if g.isGroup then g.levels else []) ++ Mark.levelsOfAll rest

end

mutual

/-- The marks in a mark that are no groups, depth first. -/
def Mark.leaves : Mark → List Mark
  | ⟨_, _, _, _, _, marks, _, _, _, _⟩ => Mark.leavesOfAll marks

/-- Marks, with the leaves of a group instead of the group. -/
def Mark.leavesOfAll : List Mark → List Mark
  | [] => []
  | g :: rest => (if g.isGroup then g.leaves else [g]) ++ Mark.leavesOfAll rest

end

namespace Contents

def levels (k : Contents) : List Contents := k :: Mark.levelsOfAll k.marks

def leaves (k : Contents) : List Mark := Mark.leavesOfAll k.marks

/-- What holds of contents whenever it holds of the groups in them holds of all contents. -/
theorem induction {P : Contents → Prop} (step : ∀ k, (∀ g ∈ k.groups, P g.contents) → P k)
    (k : Contents) : P k :=
  step k fun g _held => induction step g.contents
termination_by sizeOf k.marks
decreasing_by
  have held : sizeOf g < sizeOf k.marks := List.sizeOf_lt_of_mem (List.mem_filter.1 _held).1
  have nested : sizeOf g.marks < sizeOf g := by
    cases g
    simp only [Mark.mk.sizeOf_spec]
    omega
  exact Nat.lt_trans nested held

end Contents

theorem Mark.levels_eq (g : Mark) : g.levels = g.contents.levels := by
  cases g
  rfl

theorem Mark.leaves_eq (g : Mark) : g.leaves = g.contents.leaves := by
  cases g
  rfl

theorem Mark.levelsOfAll_eq (gs : List Mark) :
    levelsOfAll gs = gs.flatMap fun g => if g.isGroup then g.contents.levels else [] := by
  induction gs with
  | nil => rfl
  | cons g rest ih => rw [levelsOfAll, ih, levels_eq, List.flatMap_cons]

theorem Mark.leavesOfAll_eq (gs : List Mark) :
    leavesOfAll gs = gs.flatMap fun g => if g.isGroup then g.contents.leaves else [g] := by
  induction gs with
  | nil => rfl
  | cons g rest ih => rw [leavesOfAll, ih, leaves_eq, List.flatMap_cons]

namespace Contents

theorem mem_groups_iff {k : Contents} {g : Mark} :
    g ∈ k.groups ↔ g ∈ k.marks ∧ g.isGroup = true :=
  List.mem_filter

/-- The levels below the first are those of the groups. -/
theorem mem_levels_cons_iff {k k' : Contents} :
    k' ∈ k.levels ↔ k' = k ∨ ∃ g ∈ k.groups, k' ∈ g.contents.levels := by
  rw [levels, Mark.levelsOfAll_eq, List.mem_cons, List.mem_flatMap]
  apply or_congr_right
  constructor
  · rintro ⟨g, held, level⟩
    cases hg : g.isGroup with
    | false => simp [hg] at level
    | true => exact ⟨g, mem_groups_iff.2 ⟨held, hg⟩, by simpa [hg] using level⟩
  · rintro ⟨g, held, level⟩
    obtain ⟨held, hg⟩ := mem_groups_iff.1 held
    exact ⟨g, held, by simpa [hg] using level⟩

/-- The levels are what the scopes lead to. -/
theorem mem_levels_iff {k k' : Contents} : k' ∈ k.levels ↔ ∃ path, k.at? path = some k' := by
  induction k using Contents.induction with
  | step k ih =>
      rw [mem_levels_cons_iff]
      constructor
      · rintro (rfl | ⟨g, held, level⟩)
        · exact ⟨[], rfl⟩
        · obtain ⟨path, leads⟩ := (ih g held).1 level
          obtain ⟨i, found⟩ := List.getElem?_of_mem held
          exact ⟨i :: path, Option.bind_eq_some_iff.2 ⟨g, found, leads⟩⟩
      · rintro ⟨path, leads⟩
        cases path with
        | nil => exact .inl (Option.some.inj leads).symm
        | cons i path =>
            obtain ⟨g, found, leads⟩ := Option.bind_eq_some_iff.1 leads
            have held : g ∈ k.groups := List.mem_of_getElem? found
            exact .inr ⟨g, held, (ih g held).2 ⟨path, leads⟩⟩

/-- No leaf is a group. -/
theorem isGroup_of_mem_leaves {k : Contents} {m : Mark} (leaf : m ∈ k.leaves) :
    m.isGroup = false := by
  induction k using Contents.induction with
  | step k ih =>
      rw [leaves, Mark.leavesOfAll_eq, List.mem_flatMap] at leaf
      obtain ⟨g, held, leaf⟩ := leaf
      cases hg : g.isGroup with
      | false =>
          obtain rfl : m = g := by simpa [hg] using leaf
          exact hg
      | true =>
          have inside : m ∈ g.contents.leaves := by simpa [hg] using leaf
          exact ih g (mem_groups_iff.2 ⟨held, hg⟩) inside

/-! ## Stations by kind -/

section

variable {α : Type} {f : Station → List α}

theorem flatMap_nothing {β : Type} (l : List β) : l.flatMap (fun _ => ([] : List α)) = [] :=
  List.flatMap_eq_nil_iff.2 fun _ _ => rfl

theorem flatMap_partStations (f : Station → List α) (k : Contents) (scope : Scope) :
    (k.partStations scope).flatMap f =
      k.data.flatMap (fun d => f (.data d scope)) ++ k.scales.flatMap (fun s => f (.scale s scope))
        ++ k.axes.flatMap (fun a => f (.axis a scope))
        ++ k.legends.flatMap (fun l => f (.legend l scope)) := by
  simp only [partStations, List.flatMap_append, List.flatMap_map]

/-- What the stations of marks contribute, the groups themselves nothing, comes mark by mark, if
what a group contributes does not depend on where it stands. -/
theorem flatMap_stationsOfAll {ofMark : Mark → List α} (ofGroup : Contents → List α)
    (groups : ∀ g scope, f (.group g scope) = []) (marks : ∀ m scope, f (.mark m scope) = ofMark m)
    (gs : List Mark) (inside : ∀ g ∈ gs, g.isGroup = true → ∀ scope,
      (g.contents.stations scope).flatMap f = ofGroup g.contents) :
    ∀ scope n, (Mark.stationsOfAll scope n gs).flatMap f =
      gs.flatMap fun g => if g.isGroup then ofGroup g.contents else ofMark g := by
  induction gs with
  | nil =>
      intro scope n
      rfl
  | cons g rest ih =>
      intro scope n
      obtain ⟨here, later⟩ := List.forall_mem_cons.1 inside
      cases hg : g.isGroup with
      | false =>
          rw [Mark.stationsOfAll_mark hg, List.flatMap_cons, List.flatMap_cons, marks,
            ih later scope n, if_neg (by simp [hg])]
      | true =>
          rw [Mark.stationsOfAll_group hg, List.flatMap_append, List.flatMap_cons,
            List.flatMap_cons, groups, List.nil_append, here hg, ih later scope (n + 1), if_pos hg]

/-- What all stations contribute is put together along the groups, as they are opened. -/
theorem flatMap_stations {ofLevel : Contents → List α} {ofMark : Mark → List α}
    (total : Contents → List α)
    (opens : ∀ k, total k =
      ofLevel k ++ k.marks.flatMap fun g => if g.isGroup then total g.contents else ofMark g)
    (parts : ∀ k scope, (partStations k scope).flatMap f = ofLevel k)
    (groups : ∀ g scope, f (.group g scope) = []) (marks : ∀ m scope, f (.mark m scope) = ofMark m)
    (k : Contents) : ∀ scope, (k.stations scope).flatMap f = total k := by
  induction k using Contents.induction with
  | step k ih =>
      intro scope
      have nested := flatMap_stationsOfAll total groups marks k.marks
        (fun g held hg => ih g (mem_groups_iff.2 ⟨held, hg⟩)) scope 0
      rw [stations, List.flatMap_append, parts, nested, opens]

/-- What the stations of data, scales and guides contribute comes level by level. -/
theorem flatMap_stations_of_parts {ofLevel : Contents → List α}
    (parts : ∀ k scope, (partStations k scope).flatMap f = ofLevel k)
    (groups : ∀ g scope, f (.group g scope) = []) (marks : ∀ m scope, f (.mark m scope) = [])
    (k : Contents) (scope : Scope) : (k.stations scope).flatMap f = k.levels.flatMap ofLevel := by
  refine flatMap_stations (fun k => k.levels.flatMap ofLevel) (fun k => ?_) parts groups marks k
    scope
  rw [levels, Mark.levelsOfAll_eq, List.flatMap_cons, List.flatMap_assoc]
  congr 2
  funext g
  cases g.isGroup <;> rfl

/-- What the stations of marks contribute comes leaf by leaf. -/
theorem flatMap_stations_of_marks {ofMark : Mark → List α}
    (parts : ∀ k scope, (partStations k scope).flatMap f = [])
    (groups : ∀ g scope, f (.group g scope) = []) (marks : ∀ m scope, f (.mark m scope) = ofMark m)
    (k : Contents) (scope : Scope) : (k.stations scope).flatMap f = k.leaves.flatMap ofMark := by
  refine flatMap_stations (fun k => k.leaves.flatMap ofMark) (fun k => ?_) parts groups marks k
    scope
  rw [leaves, Mark.leavesOfAll_eq, List.nil_append, List.flatMap_assoc]
  congr 1
  funext g
  cases g.isGroup
  · exact List.append_nil _
  · rfl

end

end Contents

end ChartBinding
