import ChartBinding.Chart.Tour
import ChartBinding.Proofs.Levels
import ChartBinding.Proofs.Nesting

/-!
# Scopes are addresses

A scope is a route from a chart into its groups, and a walk gives every part the right one: a group
is shown with the route that leads to it, anything else with the route to what holds it
(`Contents.mem_stations_iff`). The groups are shown in the lexicographic order of their routes, each
route once (`Contents.groupScopes_increasing`).
-/

namespace ChartBinding

namespace Contents

/-- The group that a path of group positions leads to. The empty path leads to none. -/
def groupAt? : Contents → Scope → Option Mark
  | _, [] => none
  | k, [i] => k.groups[i]?
  | k, i :: j :: path => k.groups[i]?.bind fun g => g.contents.groupAt? (j :: path)

/-- The group at the end of a path is one of those in the contents that the path before leads to. -/
theorem groupAt?_concat (path : Scope) (i : Nat) : ∀ k : Contents,
    k.groupAt? (path ++ [i]) = (k.at? path).bind fun inner => inner.groups[i]? := by
  induction path with
  | nil =>
      intro k
      rfl
  | cons j path ih =>
      intro k
      -- the path goes on after `j`, so `j` is not where it ends
      have deeper : k.groupAt? (j :: (path ++ [i])) =
          k.groups[j]?.bind fun g => g.contents.groupAt? (path ++ [i]) := by
        cases path <;> rfl
      rw [List.cons_append, deeper, at?, Option.bind_assoc]
      congr 1
      funext g
      exact ih g.contents

theorem exists_of_groupAt? {k : Contents} {scope : Scope} {g : Mark}
    (found : k.groupAt? scope = some g) :
    ∃ path i inner, scope = path ++ [i] ∧ k.at? path = some inner ∧ inner.groups[i]? = some g := by
  rcases List.eq_nil_or_concat scope with rfl | ⟨path, i, rfl⟩
  · cases found
  · rw [List.concat_eq_append, groupAt?_concat] at found
    obtain ⟨inner, leads, found⟩ := Option.bind_eq_some_iff.1 found
    exact ⟨path, i, inner, List.concat_eq_append, leads, found⟩

/-- A path that leads to a group leads to its contents. -/
theorem at?_of_groupAt? (scope : Scope) : ∀ {k : Contents} {g : Mark},
    k.groupAt? scope = some g → k.at? scope = some g.contents := by
  induction scope with
  | nil =>
      intro k g found
      cases found
  | cons i path ih =>
      intro k g found
      cases path with
      | nil => exact Option.bind_eq_some_iff.2 ⟨g, found, rfl⟩
      | cons j path =>
          obtain ⟨outer, at_i, found⟩ := Option.bind_eq_some_iff.1 found
          exact Option.bind_eq_some_iff.2 ⟨outer, at_i, ih found⟩

/-- A path through levels with fewer than `bound` groups each has positions below `bound`. -/
theorem lt_of_mem_path {bound : Nat} (path : Scope) : ∀ {k k' : Contents},
    (∀ level ∈ k.levels, level.groups.length < bound) → k.at? path = some k' →
      ∀ i ∈ path, i < bound := by
  induction path with
  | nil =>
      intro k k' _ _ i member
      cases member
  | cons j path ih =>
      intro k k' few leads i member
      obtain ⟨g, found, leads⟩ := Option.bind_eq_some_iff.1 leads
      have held : g ∈ k.groups := List.mem_of_getElem? found
      rcases List.mem_cons.1 member with rfl | member
      · obtain ⟨inside, -⟩ := List.getElem?_eq_some_iff.1 found
        exact Nat.lt_trans inside (few k (mem_levels_cons_iff.2 (.inl rfl)))
      · apply ih _ leads i member
        intro level nested
        exact few level (mem_levels_cons_iff.2 (.inr ⟨g, held, nested⟩))

/-! ## What a station shows lies where its scope leads -/

/-- The stations, at a path, of what contents hold directly. -/
inductive Owns (k : Contents) (path : Scope) : Station → Prop where
  | data {d : DataSource} : d ∈ k.data → Owns k path (.data d path)
  | scale {s : Scale} : s ∈ k.scales → Owns k path (.scale s path)
  | axis {a : Axis} : a ∈ k.axes → Owns k path (.axis a path)
  | legend {l : Legend} : l ∈ k.legends → Owns k path (.legend l path)
  | group {g : Mark} {i : Nat} : k.groups[i]? = some g → Owns k path (.group g (path ++ [i]))
  | mark {m : Mark} : m ∈ k.marks → m.isGroup = false → Owns k path (.mark m path)

theorem mem_markStations_iff {scope : Scope} {t : Station} (gs : List Mark) : ∀ n,
    t ∈ markStations scope n gs ↔
      (∃ i g, (gs.filter Mark.isGroup)[i]? = some g ∧ t = .group g (scope ++ [n + i])) ∨
        ∃ m ∈ gs, m.isGroup = false ∧ t = .mark m scope := by
  induction gs with
  | nil => simp [markStations]
  | cons g rest ih =>
      intro n
      cases hg : g.isGroup with
      | false =>
          rw [markStations, if_neg (by simp [hg]), List.filter_cons_of_neg (by simp [hg]),
            List.mem_cons, ih n]
          simp only [List.mem_cons, exists_eq_or_imp, hg, true_and]
          exact or_left_comm
      | true =>
          rw [markStations, if_pos hg, List.filter_cons_of_pos hg, List.mem_cons, ih (n + 1),
            ← or_assoc]
          apply or_congr
          · constructor
            · rintro (rfl | ⟨i, inner, found, rfl⟩)
              · exact ⟨0, g, rfl, rfl⟩
              · have shift : n + 1 + i = n + (i + 1) := by omega
                exact ⟨i + 1, inner, found, by rw [shift]⟩
            · rintro ⟨i, inner, found, rfl⟩
              cases i with
              | zero =>
                  obtain rfl := Option.some.inj found
                  exact .inl rfl
              | succ i =>
                  have shift : n + (i + 1) = n + 1 + i := by omega
                  exact .inr ⟨i, inner, found, by rw [shift]⟩
          · simp [hg]

theorem mem_ownStations_iff {k : Contents} {path : Scope} {t : Station} :
    t ∈ k.ownStations path ↔ k.Owns path t := by
  rw [ownStations, List.mem_append, mem_markStations_iff]
  simp only [partStations, List.mem_append, List.mem_map, Nat.zero_add]
  constructor
  · rintro (((((⟨d, held, rfl⟩ | ⟨s, held, rfl⟩) | ⟨a, held, rfl⟩) | ⟨l, held, rfl⟩)) |
      ⟨i, g, found, rfl⟩ | ⟨m, held, single, rfl⟩)
    · exact .data held
    · exact .scale held
    · exact .axis held
    · exact .legend held
    · exact .group found
    · exact .mark held single
  · intro own
    cases own with
    | data held => exact .inl (.inl (.inl (.inl ⟨_, held, rfl⟩)))
    | scale held => exact .inl (.inl (.inl (.inr ⟨_, held, rfl⟩)))
    | axis held => exact .inl (.inl (.inr ⟨_, held, rfl⟩))
    | legend held => exact .inl (.inr ⟨_, held, rfl⟩)
    | group found => exact .inr (.inl ⟨_, _, found, rfl⟩)
    | mark held single => exact .inr (.inr ⟨_, held, single, rfl⟩)

/-- The stations are those of what is held where the scopes lead. -/
theorem mem_stations_iff {k : Contents} {t : Station} :
    t ∈ k.stations [] ↔ ∃ path inner, k.at? path = some inner ∧ inner.Owns path t := by
  have owned (path : Scope) := filter_stations path k []
  constructor
  · intro shown
    obtain ⟨path, below⟩ := owner_stations shown
    have kept : t ∈ (k.stations []).filter (·.isOf ([] ++ path)) :=
      List.mem_filter.2 ⟨shown, Station.isOf_iff.2 below⟩
    rw [owned path] at kept
    cases leads : k.at? path with
    | none => simp [leads] at kept
    | some inner =>
        rw [leads] at kept
        exact ⟨path, inner, leads, mem_ownStations_iff.1 kept⟩
  · rintro ⟨path, inner, leads, own⟩
    have all := owned path
    rw [leads] at all
    have kept : t ∈ (k.stations []).filter (·.isOf ([] ++ path)) := by
      rw [all]
      exact mem_ownStations_iff.2 own
    exact (List.mem_filter.1 kept).1

theorem group_mem_stations_iff {k : Contents} {g : Mark} {scope : Scope} :
    .group g scope ∈ k.stations [] ↔ k.groupAt? scope = some g := by
  rw [mem_stations_iff]
  constructor
  · rintro ⟨path, inner, leads, own⟩
    cases own with
    | group found =>
        rw [groupAt?_concat, leads]
        exact found
  · intro found
    obtain ⟨path, i, inner, rfl, leads, found⟩ := exists_of_groupAt? found
    exact ⟨path, inner, leads, .group found⟩

end Contents

/-- The scope that a station comes with. -/
def Station.scope : Station → Scope
  | .chart _ => []
  | .data _ scope => scope
  | .scale _ scope => scope
  | .axis _ scope => scope
  | .legend _ scope => scope
  | .group _ scope => scope
  | .mark _ scope => scope

/-- Every scope leads somewhere. -/
theorem Contents.exists_at?_scope {k : Contents} {t : Station} (shown : t ∈ k.stations []) :
    ∃ inner, k.at? t.scope = some inner := by
  obtain ⟨path, inner, leads, own⟩ := mem_stations_iff.1 shown
  cases own with
  | @group g i found =>
      have ends : k.groupAt? (path ++ [i]) = some g := by
        rw [groupAt?_concat, leads]
        exact found
      exact ⟨g.contents, at?_of_groupAt? _ ends⟩
  | _ => exact ⟨inner, leads⟩

/-! ## The order of the groups -/

/-- The scope of a group, if a station shows one. -/
def Station.groupScope? : Station → Option Scope
  | .group _ scope => some scope
  | _ => none

/-- The scopes of the groups among stations. -/
def Station.groupScopes (ts : List Station) : List Scope := ts.filterMap Station.groupScope?

namespace Station

theorem mem_groupScopes_iff {ts : List Station} {scope : Scope} :
    scope ∈ groupScopes ts ↔ ∃ g, .group g scope ∈ ts := by
  rw [groupScopes, List.mem_filterMap]
  constructor
  · rintro ⟨t, shown, route⟩
    cases t with
    | group g scope' =>
        obtain rfl := Option.some.inj route
        exact ⟨g, shown⟩
    | _ => cases route
  · rintro ⟨g, shown⟩
    exact ⟨.group g scope, shown, rfl⟩

theorem groupScopes_under (s : Scope) (ts : List Station) :
    groupScopes (ts.map (·.under s)) = (groupScopes ts).map (s ++ ·) := by
  rw [groupScopes, groupScopes, List.filterMap_map, List.map_filterMap]
  congr 1
  funext t
  cases t <;> rfl

end Station

namespace Contents

theorem groupScopes_stations (k : Contents) (scope : Scope) :
    Station.groupScopes (k.stations scope) =
      Station.groupScopes (Mark.stationsOfAll scope 0 k.marks) := by
  have none : Station.groupScopes (k.partStations scope) = [] := by
    simp [Station.groupScopes, partStations, Station.groupScope?]
  rw [Station.groupScopes, stations, List.filterMap_append]
  exact congrArg (· ++ _) none

/-- A group comes first among the groups in it, then the groups after it. -/
theorem groupScopes_stationsOfAll {g : Mark} (hg : g.isGroup = true) (n : Nat) (rest : List Mark) :
    Station.groupScopes (Mark.stationsOfAll [] n (g :: rest)) =
      [n] :: (Station.groupScopes (g.contents.stations [])).map (n :: ·) ++
        Station.groupScopes (Mark.stationsOfAll [] (n + 1) rest) := by
  have inside : Station.groupScopes (g.contents.stations [n]) =
      (Station.groupScopes (g.contents.stations [])).map (n :: ·) := by
    have deeper := g.contents.stations_under [n] []
    rw [List.append_nil] at deeper
    rw [deeper, Station.groupScopes_under]
    rfl
  rw [Mark.stationsOfAll_group hg, Station.groupScopes, List.filterMap_append, ← inside]
  rfl

/-- The groups among marks stand at positions from `n` on. -/
theorem le_head_of_mem_groupScopes (gs : List Mark) : ∀ (n : Nat),
    ∀ scope ∈ Station.groupScopes (Mark.stationsOfAll [] n gs),
      ∃ i path, scope = i :: path ∧ n ≤ i := by
  induction gs with
  | nil =>
      intro n scope member
      cases member
  | cons g rest ih =>
      intro n scope member
      cases hg : g.isGroup with
      | false =>
          rw [Mark.stationsOfAll_mark hg] at member
          exact ih n scope member
      | true =>
          rw [groupScopes_stationsOfAll hg, List.mem_append, List.mem_cons] at member
          rcases member with (rfl | member) | member
          · exact ⟨n, [], rfl, Nat.le_refl n⟩
          · obtain ⟨path, -, rfl⟩ := List.mem_map.1 member
            exact ⟨n, path, rfl, Nat.le_refl n⟩
          · obtain ⟨i, path, rfl, later⟩ := ih (n + 1) scope member
            exact ⟨i, path, rfl, Nat.le_of_succ_le later⟩

/-- The scopes of groups increase along marks, if they do within each of the groups. -/
theorem pairwise_groupScopes_stationsOfAll (gs : List Mark)
    (inside : ∀ g ∈ gs, g.isGroup = true →
      (Station.groupScopes (g.contents.stations [])).Pairwise (· < ·)) : ∀ n,
    (Station.groupScopes (Mark.stationsOfAll [] n gs)).Pairwise (· < ·) := by
  induction gs with
  | nil =>
      intro n
      exact .nil
  | cons g rest ih =>
      intro n
      obtain ⟨here, later⟩ := List.forall_mem_cons.1 inside
      cases hg : g.isGroup with
      | false =>
          rw [Mark.stationsOfAll_mark hg]
          exact ih later n
      | true =>
          have block : ([n] :: (Station.groupScopes (g.contents.stations [])).map (n :: ·)).Pairwise
              (· < ·) := by
            rw [List.pairwise_cons, List.pairwise_map]
            constructor
            · intro scope member
              obtain ⟨path, nested, rfl⟩ := List.mem_map.1 member
              -- the group itself is a proper prefix, for no group stands at the empty path
              rw [groupScopes_stations] at nested
              obtain ⟨i, path, rfl, -⟩ := le_head_of_mem_groupScopes g.contents.marks 0 path nested
              exact List.Lex.cons List.Lex.nil
            · exact (here hg).imp List.Lex.cons
          rw [groupScopes_stationsOfAll hg, List.pairwise_append]
          refine ⟨block, ih later (n + 1), ?_⟩
          -- what is in this group has `n` for its first position, what comes later a larger one
          intro scope first scope' second
          obtain ⟨path, rfl⟩ : ∃ path, scope = n :: path := by
            rcases List.mem_cons.1 first with rfl | member
            · exact ⟨[], rfl⟩
            · obtain ⟨path, -, rfl⟩ := List.mem_map.1 member
              exact ⟨path, rfl⟩
          obtain ⟨i, path', rfl, le⟩ := le_head_of_mem_groupScopes rest (n + 1) scope' second
          exact List.Lex.rel le

/-- Groups are shown in the order of their scopes. -/
theorem groupScopes_increasing (k : Contents) :
    (Station.groupScopes (k.stations [])).Pairwise (· < ·) := by
  induction k using Contents.induction with
  | step k ih =>
      rw [groupScopes_stations]
      apply pairwise_groupScopes_stationsOfAll
      intro g held hg
      exact ih g (mem_groups_iff.2 ⟨held, hg⟩)

end Contents

/-! ## Addresses -/

/-- The scopes of a list of stations are addresses in a chart. -/
structure Chart.Addresses (c : Chart) (ts : List Station) : Prop where
  /-- A group is shown with a path that leads to it. -/
  group : ∀ g scope, .group g scope ∈ ts → scope ≠ [] ∧ c.contents.groupAt? scope = some g
  /-- Everything but the chart is shown with the path to the chart or group that holds it, a group
  with its position there added. -/
  owned : ∀ t ∈ ts, t = .chart c ∨ ∃ path k, c.contents.at? path = some k ∧ k.Owns path t
  /-- What is shown of one chart or group is what it holds, once and in order. -/
  held : ∀ scope, ts.filter (·.isOf scope) =
    (c.contents.at? scope).elim [] (·.ownStations scope)
  /-- No two groups are shown with one path. -/
  distinct : (Station.groupScopes ts).Nodup
  /-- Groups come in the lexicographic order of their paths. -/
  increasing : (Station.groupScopes ts).Pairwise (· < ·)
  /-- Every path that leads to a group is that of one shown. -/
  all : ∀ scope, scope ∈ Station.groupScopes ts ↔ (c.contents.groupAt? scope).isSome
  /-- Each position on a path fits in a machine word. -/
  fits : ∀ t ∈ ts, ∀ i ∈ t.scope, i < UInt32.size

/-- The stations of a chart are addressed, if the positions fit. -/
theorem Chart.addresses_stations {c : Chart}
    (few : ∀ k ∈ c.contents.levels, k.groups.length < UInt32.size) : c.Addresses c.stations := by
  have shown {t : Station} (member : t ∈ c.stations) :
      t = .chart c ∨ t ∈ c.contents.stations [] := by
    rw [Chart.stations_eq] at member
    exact List.mem_cons.1 member
  have groups (scope : Scope) (g : Mark) :
      .group g scope ∈ c.stations ↔ c.contents.groupAt? scope = some g := by
    rw [Chart.stations_eq, List.mem_cons, ← Contents.group_mem_stations_iff]
    exact or_iff_right nofun
  constructor
  case group =>
    intro g scope member
    have found := (groups scope g).1 member
    refine ⟨?_, found⟩
    rintro rfl
    cases found
  case owned =>
    intro t member
    exact (shown member).imp_right Contents.mem_stations_iff.1
  case held => exact c.isItinerary_stations.held
  case distinct =>
    apply c.contents.groupScopes_increasing.imp
    rintro scope _ before rfl
    exact List.lt_irrefl scope before
  case increasing => exact c.contents.groupScopes_increasing
  case all =>
    intro scope
    rw [Station.mem_groupScopes_iff, Option.isSome_iff_exists]
    exact exists_congr fun g => groups scope g
  case fits =>
    intro t member i position
    rcases shown member with rfl | member
    · cases position
    · obtain ⟨inner, leads⟩ := Contents.exists_at?_scope member
      exact Contents.lt_of_mem_path t.scope few leads i position

/-! ## Tours -/

theorem react_tourist (seen : List Station) (t : Station) :
    (tourist none).react seen t = (.ok (), seen ++ [t]) := by
  cases t <;> rfl

theorem showAll_tourist (ts seen : List Station) :
    (tourist none).showAll seen ts = ⟨ts, .ok (), seen ++ ts⟩ := by
  rw [Visitor.showAll_of_never_fails _ react_tourist, List.foldl_append_eq_append,
    ← List.flatMap_def, List.flatMap_singleton']

/-- A tour that is not broken off sees every station. -/
theorem Chart.tour_none (c : Chart) : c.tour none = (c.stations, .ok ()) := by
  have whole : (c.walk (tourist none)).run.run [] = (.ok (), c.stations) := by
    rw [Chart.walk_eq_forM, Visitor.run_forM, showAll_tourist]
    rfl
  rw [Chart.tour, whole]

/-- **Scopes address groups.** A walk through a chart with fewer than `2 ^ 32` groups at each level
succeeds, and the scope of every station is an address: it leads to the group that is shown, or to
what holds the part that is shown; the groups come in the order of their addresses, each address
once and none left out. -/
theorem Chart.scopes_address_groups (c : Chart)
    (few : ∀ k ∈ c.contents.levels, k.groups.length < UInt32.size) :
    (c.tour none).2 = .ok () ∧ c.Addresses (c.tour none).1 := by
  rw [c.tour_none]
  exact ⟨rfl, Chart.addresses_stations few⟩

/-- Two groups among other marks, the first with two groups of its own. -/
def nestedChart : Chart :=
  let plain (kind : String) (marks : List Mark) : Mark :=
    ⟨kind, none, none, none, [], marks, [], [], [], ∅⟩
  { Chart.blank with
    marks := [plain "symbol" [],
      plain "group" [plain "rect" [], plain "group" [], plain "group" [plain "line" []]],
      plain "rule" [plain "group" []], plain "group" []] }

theorem scopes_address_groups_of_nestedChart :
    (∀ k ∈ nestedChart.contents.levels, k.groups.length < UInt32.size) ∧
      (nestedChart.tour none).2 = .ok () ∧ nestedChart.Addresses (nestedChart.tour none).1 := by
  have few : ∀ k ∈ nestedChart.contents.levels, k.groups.length < UInt32.size := by decide
  exact ⟨few, Chart.scopes_address_groups nestedChart few⟩

example : Station.groupScopes nestedChart.stations = [[0], [0, 0], [0, 1], [1]] := by decide

end ChartBinding
