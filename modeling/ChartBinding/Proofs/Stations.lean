import ChartBinding.Chart.Walk

/-!
# The stations of a chart

A chart and a group hold the same lists of parts, their *contents*. A scope leads from the contents
of a chart to those of a group, at each level through the group at that position among the groups
there (`Contents.at?`), so it never leads into a mark of another kind.

Every station but the chart has an *owner*, the scope of the chart or group that holds the part.
The stations with a given owner are, in order, exactly what the owner holds
(`Contents.filter_stations`); and a group is followed at once by the stations of its contents
(`Contents.exists_opened`).
-/

namespace ChartBinding

/-! ## Contents -/

/-- What a chart holds, and what a group holds. -/
structure Contents where
  data : List DataSource
  scales : List Scale
  axes : List Axis
  legends : List Legend
  marks : List Mark

def Mark.contents (g : Mark) : Contents := ⟨g.data, g.scales, g.axes, g.legends, g.marks⟩

def Chart.contents (c : Chart) : Contents := ⟨c.data, c.scales, c.axes, c.legends, c.marks⟩

namespace Contents

def groups (k : Contents) : List Mark := k.marks.filter Mark.isGroup

/-- The contents that a path of group positions leads to. -/
def at? : Contents → Scope → Option Contents
  | k, [] => some k
  | k, i :: path => k.groups[i]?.bind fun g => g.contents.at? path

/-- The stations of the parts that are no marks. -/
def partStations (k : Contents) (scope : Scope) : List Station :=
  k.data.map (Station.data · scope) ++ k.scales.map (Station.scale · scope)
    ++ k.axes.map (Station.axis · scope) ++ k.legends.map (Station.legend · scope)

/-- The stations of marks, no group opened; `groups` groups came before. -/
def markStations (scope : Scope) (groups : Nat) : List Mark → List Station
  | [] => []
  | g :: rest =>
    if g.isGroup then .group g (scope ++ [groups]) :: markStations scope (groups + 1) rest
    else .mark g scope :: markStations scope groups rest

/-- The stations of what is held directly: the data, the scales, the axes, the legends and the
marks, each list in its order. -/
def ownStations (k : Contents) (scope : Scope) : List Station :=
  k.partStations scope ++ markStations scope 0 k.marks

/-- The stations of all that is held, groups opened. -/
def stations (k : Contents) (scope : Scope) : List Station :=
  k.partStations scope ++ Mark.stationsOfAll scope 0 k.marks

end Contents

theorem Mark.stations_eq (scope : Scope) (g : Mark) :
    g.stations scope = g.contents.stations scope := by
  cases g
  rfl

theorem Chart.stations_eq (c : Chart) : c.stations = .chart c :: c.contents.stations [] := rfl

theorem Mark.stationsOfAll_group {g : Mark} (h : g.isGroup = true) (scope : Scope) (n : Nat)
    (rest : List Mark) :
    stationsOfAll scope n (g :: rest) =
      .group g (scope ++ [n]) :: g.contents.stations (scope ++ [n])
        ++ stationsOfAll scope (n + 1) rest := by
  rw [stationsOfAll, if_pos h, stations_eq]

theorem Mark.stationsOfAll_mark {g : Mark} (h : g.isGroup = false) (scope : Scope) (n : Nat)
    (rest : List Mark) :
    stationsOfAll scope n (g :: rest) = .mark g scope :: stationsOfAll scope n rest := by
  rw [stationsOfAll, if_neg (by simp [h])]

/-! ## Owners -/

/-- The scope of the chart or group that holds what a station shows. -/
def Station.owner : Station → Option Scope
  | .chart _ => none
  | .data _ scope => some scope
  | .scale _ scope => some scope
  | .axis _ scope => some scope
  | .legend _ scope => some scope
  | .group _ scope => some scope.dropLast
  | .mark _ scope => some scope

/-- Whether a station shows something that is held at a scope. -/
def Station.isOf (scope : Scope) (t : Station) : Bool := t.owner = some scope

theorem Station.isOf_iff {scope : Scope} {t : Station} :
    t.isOf scope = true ↔ t.owner = some scope :=
  decide_eq_true_iff

theorem Contents.owner_partStations {k : Contents} {scope : Scope} {t : Station}
    (h : t ∈ k.partStations scope) : t.owner = some scope := by
  simp only [partStations, List.mem_append, List.mem_map] at h
  rcases h with ((⟨_, _, rfl⟩ | ⟨_, _, rfl⟩) | ⟨_, _, rfl⟩) | ⟨_, _, rfl⟩ <;> rfl

mutual

/-- What is held by a group, directly or in groups of its own, has an owner below its scope. -/
theorem Mark.owner_stations (scope : Scope) : ∀ (g : Mark), ∀ t ∈ g.stations scope,
    ∃ path, t.owner = some (scope ++ path)
  | ⟨_, _, _, _, data, marks, scales, axes, legends, _⟩, t, h => by
      rcases List.mem_append.1 h with h | h
      · exact ⟨[], by
          rw [List.append_nil]
          exact Contents.owner_partStations (k := ⟨data, scales, axes, legends, marks⟩) h⟩
      · rcases Mark.owner_stationsOfAll scope 0 marks t h with here | ⟨i, path, -, below⟩
        · exact ⟨[], by rw [List.append_nil, here]⟩
        · exact ⟨i :: path, below⟩

/-- Marks have the owner at hand, and what is in groups an owner below, at a position that no group
before them has. -/
theorem Mark.owner_stationsOfAll (scope : Scope) (n : Nat) : ∀ (gs : List Mark),
    ∀ t ∈ Mark.stationsOfAll scope n gs,
      t.owner = some scope ∨ ∃ i path, n ≤ i ∧ t.owner = some (scope ++ i :: path)
  | [], t, h => by cases h
  | g :: rest, t, h => by
      cases hg : g.isGroup with
      | false =>
          rw [Mark.stationsOfAll_mark hg] at h
          rcases List.mem_cons.1 h with rfl | h
          · exact .inl rfl
          · exact Mark.owner_stationsOfAll scope n rest t h
      | true =>
          rw [Mark.stationsOfAll_group hg, ← Mark.stations_eq] at h
          rcases List.mem_append.1 h with h | h
          · rcases List.mem_cons.1 h with rfl | h
            · exact .inl (congrArg some List.dropLast_concat)
            · obtain ⟨path, below⟩ := Mark.owner_stations (scope ++ [n]) g t h
              exact .inr ⟨n, path, Nat.le_refl n, by rw [below, List.append_assoc]; rfl⟩
          · rcases Mark.owner_stationsOfAll scope (n + 1) rest t h with here | ⟨i, path, le, below⟩
            · exact .inl here
            · exact .inr ⟨i, path, Nat.le_of_succ_le le, below⟩

end

theorem Contents.owner_stations {k : Contents} {scope : Scope} {t : Station}
    (h : t ∈ k.stations scope) : ∃ path, t.owner = some (scope ++ path) := by
  rcases List.mem_append.1 h with h | h
  · exact ⟨[], by rw [List.append_nil, owner_partStations h]⟩
  · rcases Mark.owner_stationsOfAll scope 0 k.marks t h with here | ⟨i, path, -, below⟩
    · exact ⟨[], by rw [List.append_nil, here]⟩
    · exact ⟨i :: path, below⟩

/-! ## The stations of one owner -/

namespace Contents

theorem filter_partStations_self (k : Contents) (scope : Scope) :
    (k.partStations scope).filter (·.isOf scope) = k.partStations scope :=
  List.filter_eq_self.2 fun _ ht => Station.isOf_iff.2 (owner_partStations ht)

theorem filter_partStations_of_ne (k : Contents) {scope other : Scope} (h : scope ≠ other) :
    (k.partStations scope).filter (·.isOf other) = [] :=
  List.filter_eq_nil_iff.2 fun _ ht same =>
    h (Option.some.inj ((owner_partStations ht).symm.trans (Station.isOf_iff.1 same)))

/-- Nothing in a group is held outside of it. -/
theorem filter_stations_of_apart (k : Contents) {scope other : Scope}
    (h : ¬ scope <+: other) : (k.stations scope).filter (·.isOf other) = [] :=
  List.filter_eq_nil_iff.2 fun t ht same => by
    obtain ⟨path, below⟩ := owner_stations ht
    exact h ⟨path, Option.some.inj (below.symm.trans (Station.isOf_iff.1 same))⟩

/-- Of the stations of marks, those of the owner at hand are the marks themselves. -/
theorem filter_stationsOfAll_self (scope : Scope) (gs : List Mark) : ∀ n,
    (Mark.stationsOfAll scope n gs).filter (·.isOf scope) = markStations scope n gs := by
  induction gs with
  | nil =>
      intro n
      rfl
  | cons g rest ih =>
      intro n
      cases hg : g.isGroup with
      | false =>
          have own : (Station.mark g scope).isOf scope = true := Station.isOf_iff.2 rfl
          rw [Mark.stationsOfAll_mark hg, List.filter_cons_of_pos own, ih, markStations,
            if_neg (by simp [hg])]
      | true =>
          have own : (Station.group g (scope ++ [n])).isOf scope = true :=
            Station.isOf_iff.2 (congrArg some List.dropLast_concat)
          have inside : ¬ scope ++ [n] <+: scope := fun le => by
            have longer := le.length_le
            rw [List.length_append, List.length_singleton] at longer
            omega
          rw [Mark.stationsOfAll_group hg, List.filter_append, List.filter_cons_of_pos own,
            filter_stations_of_apart _ inside, ih, markStations, if_pos hg]
          rfl

/-- Of the stations of marks, those of an owner below a position come from the group at that
position. -/
theorem filter_stationsOfAll_below (scope path : Scope) (gs : List Mark) : ∀ n i,
    (Mark.stationsOfAll scope n gs).filter (·.isOf (scope ++ (n + i) :: path)) =
      ((gs.filter Mark.isGroup)[i]?).elim [] fun g =>
        (g.contents.stations (scope ++ [n + i])).filter (·.isOf (scope ++ (n + i) :: path)) := by
  induction gs with
  | nil =>
      intro n i
      rfl
  | cons g rest ih =>
      intro n i
      have deeper : scope ≠ scope ++ (n + i) :: path := fun same => by
        simpa using congrArg List.length same
      cases hg : g.isGroup with
      | false =>
          have other : ¬ (Station.mark g scope).isOf (scope ++ (n + i) :: path) = true :=
            fun same => deeper (Option.some.inj (Station.isOf_iff.1 same))
          rw [Mark.stationsOfAll_mark hg, List.filter_cons_of_neg other, ih,
            List.filter_cons_of_neg (by simp [hg])]
      | true =>
          have other : ¬ (Station.group g (scope ++ [n])).isOf (scope ++ (n + i) :: path) = true :=
            fun same => deeper
              (List.dropLast_concat.symm.trans (Option.some.inj (Station.isOf_iff.1 same)))
          rw [Mark.stationsOfAll_group hg, List.filter_append, List.filter_cons_of_neg other,
            List.filter_cons_of_pos hg]
          cases i with
          | zero =>
              -- The groups that follow have later positions.
              have later : (Mark.stationsOfAll scope (n + 1) rest).filter
                  (·.isOf (scope ++ (n + 0) :: path)) = [] := by
                refine List.filter_eq_nil_iff.2 fun t ht same => ?_
                rw [Station.isOf_iff] at same
                rcases Mark.owner_stationsOfAll scope (n + 1) rest t ht with
                  here | ⟨j, q, le, below⟩
                · exact deeper (Option.some.inj (here.symm.trans same))
                · have tails := List.append_cancel_left (Option.some.inj (below.symm.trans same))
                  obtain ⟨rfl, -⟩ := List.cons.inj tails
                  omega
              rw [later, List.append_nil]
              rfl
          | succ i =>
              have apart : ¬ scope ++ [n] <+: scope ++ (n + (i + 1)) :: path := fun le => by
                obtain ⟨q, same⟩ := le
                rw [List.append_assoc] at same
                obtain ⟨eq, -⟩ := List.cons.inj (List.append_cancel_left same)
                omega
              have shift : n + (i + 1) = n + 1 + i := by omega
              rw [filter_stations_of_apart _ apart, List.nil_append, shift, ih,
                List.getElem?_cons_succ]

/-- **Everything is shown once, by its owner's order.** The stations of an owner are what it holds;
a scope that leads nowhere owns none. -/
theorem filter_stations (path : Scope) : ∀ (k : Contents) (scope : Scope),
    (k.stations scope).filter (·.isOf (scope ++ path)) =
      (k.at? path).elim [] (·.ownStations (scope ++ path)) := by
  induction path with
  | nil =>
      intro k scope
      rw [List.append_nil, stations, List.filter_append, filter_partStations_self,
        filter_stationsOfAll_self]
      rfl
  | cons i path ih =>
      intro k scope
      have deeper : scope ≠ scope ++ i :: path := fun same => by
        simpa using congrArg List.length same
      have below := filter_stationsOfAll_below scope path k.marks 0 i
      rw [Nat.zero_add] at below
      rw [stations, List.filter_append, filter_partStations_of_ne k deeper, List.nil_append, below,
        at?, groups]
      cases (k.marks.filter Mark.isGroup)[i]? with
      | none => rfl
      | some g =>
          have inner := ih g.contents (scope ++ [i])
          rw [List.append_assoc] at inner
          exact inner

/-! ## Groups are opened at once -/

theorem exists_opened_of_stationsOfAll (scope : Scope) (gs : List Mark) : ∀ (n i : Nat) (g : Mark),
    (gs.filter Mark.isGroup)[i]? = some g →
      ∃ before after, Mark.stationsOfAll scope n gs =
        before ++ .group g (scope ++ [n + i]) :: g.contents.stations (scope ++ [n + i]) ++ after := by
  induction gs with
  | nil =>
      intro n i g h
      cases h
  | cons g' rest ih =>
      intro n i g h
      cases hg : g'.isGroup with
      | false =>
          rw [List.filter_cons_of_neg (by simp [hg])] at h
          obtain ⟨before, after, eq⟩ := ih n i g h
          refine ⟨.mark g' scope :: before, after, ?_⟩
          rw [Mark.stationsOfAll_mark hg, eq]
          rfl
      | true =>
          rw [List.filter_cons_of_pos hg] at h
          rw [Mark.stationsOfAll_group hg]
          cases i with
          | zero =>
              obtain rfl := Option.some.inj h
              exact ⟨[], _, rfl⟩
          | succ i =>
              obtain ⟨before, after, eq⟩ := ih (n + 1) i g h
              have shift : n + (i + 1) = n + 1 + i := by omega
              refine ⟨.group g' (scope ++ [n]) :: g'.contents.stations (scope ++ [n]) ++ before,
                after, ?_⟩
              rw [eq, shift]
              simp only [List.append_assoc]

/-- The stations of a group's contents are a part of the stations around it, and the group stands
right before them. -/
theorem exists_opened (path : Scope) : ∀ {k k' : Contents} {scope : Scope} {i : Nat} {g : Mark},
    k.at? path = some k' → k'.groups[i]? = some g →
      ∃ before after, k.stations scope =
        before ++ .group g (scope ++ path ++ [i]) :: g.contents.stations (scope ++ path ++ [i])
          ++ after := by
  induction path with
  | nil =>
      intro k k' scope i g leads found
      obtain rfl := Option.some.inj leads
      obtain ⟨before, after, eq⟩ := exists_opened_of_stationsOfAll scope k.marks 0 i g found
      rw [Nat.zero_add] at eq
      refine ⟨k.partStations scope ++ before, after, ?_⟩
      rw [stations, eq, List.append_nil]
      simp only [List.append_assoc]
  | cons j path ih =>
      intro k k' scope i g leads found
      obtain ⟨outer, at_j, leads⟩ := Option.bind_eq_some_iff.1 leads
      obtain ⟨before, after, eq⟩ :=
        exists_opened_of_stationsOfAll scope k.marks 0 j outer at_j
      obtain ⟨before', after', eq'⟩ := @ih _ _ (scope ++ [0 + j]) _ _ leads found
      have shift : scope ++ [0 + j] ++ path = scope ++ j :: path := by
        rw [Nat.zero_add, List.append_assoc]
        rfl
      rw [shift] at eq'
      refine ⟨k.partStations scope ++ before ++ .group outer (scope ++ [0 + j]) :: before',
        after' ++ after, ?_⟩
      rw [stations, eq, eq']
      simp only [List.append_assoc, List.cons_append]

end Contents

end ChartBinding
