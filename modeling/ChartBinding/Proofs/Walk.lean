import ChartBinding.Proofs.Stations

/-!
# A walk is its stations in order

In any lawful monad a walk is the visits of its stations, one after another
(`Chart.walk_eq_forM`). For a visitor that carries a state and may fail, going through a list of
stations is described by recursion on the list (`Visitor.showAll`): the stations are shown one after
another up to the first that fails. What a walk has shown is noted down by a second visitor around
the given one (`Visitor.noting`).
-/

namespace ChartBinding

/-! ## Walks in any monad -/

section

variable {m : Type → Type} [Monad m] (v : Visitor m)

/-- Shows what a chart or a group holds. -/
def Contents.walk (k : Contents) (scope : Scope) : m Unit := do
  k.data.forM fun d => v.data d scope
  k.scales.forM fun s => v.scale s scope
  k.axes.forM fun a => v.axis a scope
  k.legends.forM fun l => v.legend l scope
  Mark.walkAll v scope 0 k.marks

theorem Mark.walk_eq (scope : Scope) (g : Mark) :
    g.walk v scope = g.contents.walk v scope := by
  cases g
  rfl

theorem Chart.walk_eq (c : Chart) : c.walk v = (do v.chart c; c.contents.walk v []) := rfl

variable [LawfulMonad m]

theorem Visitor.forM_append (ts ts' : List Station) :
    (ts ++ ts').forM v.visit = (do ts.forM v.visit; ts'.forM v.visit) := by
  simp only [List.forM_eq_forM, List.forM_append]

theorem Contents.forM_partStations (k : Contents) (scope : Scope) :
    (k.partStations scope).forM v.visit = (do
      k.data.forM fun d => v.data d scope
      k.scales.forM fun s => v.scale s scope
      k.axes.forM fun a => v.axis a scope
      k.legends.forM fun l => v.legend l scope) := by
  simp only [partStations, List.forM_eq_forM, List.forM_append, List.forM_map, bind_assoc]
  rfl

theorem Contents.walk_eq_forM_of {k : Contents} {scope : Scope}
    (marks : Mark.walkAll v scope 0 k.marks = (Mark.stationsOfAll scope 0 k.marks).forM v.visit) :
    k.walk v scope = (k.stations scope).forM v.visit := by
  rw [stations, Visitor.forM_append, forM_partStations, walk, marks]
  simp only [bind_assoc]

mutual

theorem Mark.walk_eq_forM (scope : Scope) : ∀ g : Mark,
    g.walk v scope = (g.stations scope).forM v.visit
  | ⟨kind, name, source, encoding, data, marks, scales, axes, legends, extra⟩ => by
      rw [Mark.walk_eq, Mark.stations_eq]
      exact Contents.walk_eq_forM_of v (Mark.walkAll_eq_forM scope 0 marks)

theorem Mark.walkAll_eq_forM (scope : Scope) (n : Nat) : ∀ gs : List Mark,
    Mark.walkAll v scope n gs = (Mark.stationsOfAll scope n gs).forM v.visit
  | [] => rfl
  | g :: rest => by
      cases hg : g.isGroup with
      | false =>
          rw [Mark.walkAll, if_neg (by simp [hg]), Mark.stationsOfAll_mark hg,
            Mark.walkAll_eq_forM scope n rest]
          rfl
      | true =>
          rw [Mark.walkAll, if_pos hg, Mark.stationsOfAll_group hg, ← Mark.stations_eq,
            Mark.walk_eq_forM (scope ++ [n]) g, Mark.walkAll_eq_forM scope (n + 1) rest,
            Visitor.forM_append]
          show _ = ((v.group g (scope ++ [n]) >>= fun _ => _) >>= fun _ => _)
          rw [bind_assoc]

end

theorem Contents.walk_eq_forM (k : Contents) (scope : Scope) :
    k.walk v scope = (k.stations scope).forM v.visit :=
  walk_eq_forM_of v (Mark.walkAll_eq_forM v scope 0 k.marks)

theorem Chart.walk_eq_forM (c : Chart) : c.walk v = c.stations.forM v.visit := by
  rw [Chart.walk_eq, Contents.walk_eq_forM]
  rfl

end

/-! ## Visitors that carry a state and may fail -/

namespace Visitor

variable {ε σ : Type}

/-- A visitor that carries a state `σ` and may fail with an `ε`. -/
abbrev Fallible (ε σ : Type) : Type := Visitor (ExceptT ε (StateM σ))

/-- What a visitor makes of a station, and the state in which it leaves. -/
def react (v : Fallible ε σ) (s : σ) (t : Station) : Except ε Unit × σ := (v.visit t).run.run s

/-- What came of showing stations: those that were shown, how it ended, and the state at the end. -/
structure Showing (ε σ : Type) where
  shown : List Station
  result : Except ε Unit
  state : σ

/-- Shows stations one after another, up to the first that fails. -/
def showAll (v : Fallible ε σ) (s : σ) : List Station → Showing ε σ
  | [] => ⟨[], .ok (), s⟩
  | t :: rest =>
    match v.react s t with
    | (.error e, s') => ⟨[t], .error e, s'⟩
    | (.ok (), s') => { v.showAll s' rest with shown := t :: (v.showAll s' rest).shown }

/-- The visitor that does as `v` and notes down every station that `v` was shown. -/
def noting (v : Fallible ε σ) : Fallible ε (List Station × σ) :=
  .ofStation fun t => show ExceptT ε (StateM (List Station × σ)) Unit from
    fun (shown, s) => ((v.react s t).1, (shown ++ [t], (v.react s t).2))

variable (v : Fallible ε σ)

theorem showAll_cons_error {s s' : σ} {t : Station} {e : ε} (h : v.react s t = (.error e, s'))
    (rest : List Station) : v.showAll s (t :: rest) = ⟨[t], .error e, s'⟩ := by
  rw [showAll, h]

theorem showAll_cons_ok {s s' : σ} {t : Station} (h : v.react s t = (.ok (), s'))
    (rest : List Station) :
    v.showAll s (t :: rest) =
      { v.showAll s' rest with shown := t :: (v.showAll s' rest).shown } := by
  rw [showAll, h]

/-- A visitor that never fails is shown all stations. -/
theorem showAll_of_never_fails {next : σ → Station → σ}
    (never : ∀ s t, v.react s t = (.ok (), next s t)) (ts : List Station) : ∀ s : σ,
    v.showAll s ts = ⟨ts, .ok (), ts.foldl next s⟩ := by
  induction ts with
  | nil =>
      intro s
      rfl
  | cons t rest ih =>
      intro s
      rw [v.showAll_cons_ok (never s t), ih (next s t)]
      rfl

theorem run_visit_bind (t : Station) (k : ExceptT ε (StateM σ) Unit) (s : σ) :
    (v.visit t >>= fun _ => k).run.run s =
      match v.react s t with
      | (.error e, s') => (.error e, s')
      | (.ok (), s') => k.run.run s' := by
  rw [ExceptT.run_bind, StateT.run_bind, react]
  rcases (v.visit t).run.run s with ⟨_ | _, s'⟩ <;> rfl

/-- Visiting stations in sequence is showing them. -/
theorem run_forM (ts : List Station) : ∀ s : σ,
    (ts.forM v.visit).run.run s = ((v.showAll s ts).result, (v.showAll s ts).state) := by
  induction ts with
  | nil =>
      intro s
      rfl
  | cons t rest ih =>
      intro s
      show (v.visit t >>= fun _ => rest.forM v.visit).run.run s = _
      rw [run_visit_bind]
      match h : v.react s t with
      | (.error e, s') => rw [v.showAll_cons_error h]
      | (.ok (), s') => rw [v.showAll_cons_ok h, ← ih s']

theorem react_noting (earlier : List Station) (s : σ) (t : Station) :
    v.noting.react (earlier, s) t = ((v.react s t).1, (earlier ++ [t], (v.react s t).2)) := by
  cases t <;> rfl

/-- What is noted down is what was shown. -/
theorem showAll_noting (ts : List Station) : ∀ (earlier : List Station) (s : σ),
    v.noting.showAll (earlier, s) ts =
      ⟨(v.showAll s ts).shown, (v.showAll s ts).result,
        (earlier ++ (v.showAll s ts).shown, (v.showAll s ts).state)⟩ := by
  induction ts with
  | nil =>
      intro earlier s
      simp only [showAll, List.append_nil]
  | cons t rest ih =>
      intro earlier s
      have noted := v.react_noting earlier s t
      match h : v.react s t with
      | (.error e, s') =>
          rw [h] at noted
          rw [v.showAll_cons_error h, v.noting.showAll_cons_error noted]
      | (.ok (), s') =>
          rw [h] at noted
          rw [v.showAll_cons_ok h, v.noting.showAll_cons_ok noted, ih, List.append_assoc]
          rfl

/-- A showing of stations that starts in `s` goes through them in order and stops at the first
failure, which it passes on. -/
structure StopsAtFailure (s : σ) (ts : List Station) (o : Showing ε σ) : Prop where
  /-- The shown stations are the first ones. -/
  isPrefix : o.shown <+: ts
  /-- Without failure all are shown. -/
  complete : o.result = .ok () → o.shown = ts
  /-- With a failure, it is the one of the station shown last, in the state that those before it
  have left, and nothing happens after it. -/
  failed : ∀ e, o.result = .error e → ∃ before t, o.shown = before ++ [t] ∧
    (v.showAll s before).result = .ok () ∧
    v.react (v.showAll s before).state t = (.error e, o.state)

theorem stopsAtFailure (ts : List Station) : ∀ s : σ,
    v.StopsAtFailure s ts (v.showAll s ts) := by
  induction ts with
  | nil =>
      intro s
      exact ⟨List.prefix_refl [], fun _ => rfl, nofun⟩
  | cons t rest ih =>
      intro s
      match h : v.react s t with
      | (.error e, s') =>
          rw [v.showAll_cons_error h]
          refine ⟨⟨rest, rfl⟩, nofun, ?_⟩
          intro e' same
          obtain rfl := Except.error.inj same
          exact ⟨[], t, rfl, rfl, h⟩
      | (.ok (), s') =>
          rw [v.showAll_cons_ok h]
          refine ⟨List.cons_prefix_cons.2 ⟨rfl, (ih s').isPrefix⟩,
            fun ok => congrArg (List.cons t) ((ih s').complete ok), ?_⟩
          intro e failed
          obtain ⟨before, last, shown, ok, failing⟩ := (ih s').failed e failed
          refine ⟨t :: before, last, congrArg (List.cons t) shown, ?_, ?_⟩
          · rw [v.showAll_cons_ok h]
            exact ok
          · rw [v.showAll_cons_ok h]
            exact failing

end Visitor

/-! ## The order of a walk -/

/-- A list of stations that shows a chart in the order of its parts. -/
structure Chart.IsItinerary (c : Chart) (ts : List Station) : Prop where
  /-- The chart comes first; everything else is held by the chart or by a group. -/
  first : ∃ rest, ts = .chart c :: rest ∧ ∀ t ∈ rest, t.owner ≠ none
  /-- What the chart holds, and what a group holds to which a path of groups leads, is shown
  once: the data, the scales, the axes, the legends and the marks, each list in its order. A path
  that leads nowhere is the owner of nothing. -/
  held : ∀ scope, ts.filter (·.isOf scope) =
    (c.contents.at? scope).elim [] (·.ownStations scope)
  /-- A group is followed at once by what it holds. -/
  opened : ∀ scope k i g, c.contents.at? scope = some k → k.groups[i]? = some g →
    ∃ before after, ts =
      before ++ .group g (scope ++ [i]) :: g.contents.stations (scope ++ [i]) ++ after

theorem Chart.isItinerary_stations (c : Chart) : c.IsItinerary c.stations := by
  rw [Chart.stations_eq]
  refine ⟨⟨_, rfl, ?_⟩, ?_, ?_⟩
  · intro t ht none
    obtain ⟨path, some⟩ := Contents.owner_stations ht
    rw [none] at some
    cases some
  · intro scope
    have all := Contents.filter_stations scope c.contents []
    rw [List.nil_append] at all
    rw [List.filter_cons_of_neg (by simp [Station.isOf, Station.owner]), all]
  · intro scope k i g leads found
    obtain ⟨before, after, eq⟩ := @Contents.exists_opened scope _ _ [] _ _ leads found
    rw [List.nil_append] at eq
    exact ⟨.chart c :: before, after, by rw [eq]; rfl⟩

/-- **A walk shows the stations of a chart in order.** For every visitor that carries a state and
may fail, a walk comes to what showing the stations one after another comes to, and shows those: it
stops at the first failure and passes it on, and the state is the one reached there. -/
theorem Chart.walk_in_order {ε σ : Type} (c : Chart) (v : Visitor.Fallible ε σ) (s : σ) :
    (c.walk v).run.run s = ((v.showAll s c.stations).result, (v.showAll s c.stations).state) ∧
      (c.walk v.noting).run.run ([], s) =
        ((v.showAll s c.stations).result,
          ((v.showAll s c.stations).shown, (v.showAll s c.stations).state)) ∧
      v.StopsAtFailure s c.stations (v.showAll s c.stations) ∧
      c.IsItinerary c.stations := by
  refine ⟨?_, ?_, v.stopsAtFailure c.stations s, c.isItinerary_stations⟩
  · rw [Chart.walk_eq_forM, v.run_forM]
  · rw [Chart.walk_eq_forM, v.noting.run_forM, v.showAll_noting]
    rfl

end ChartBinding
