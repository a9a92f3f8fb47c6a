import ChartBinding.Binder

/-!
# Traces of calls

What a call does to the outside is read off its trace: the actions that it dispatched, the sketches
that it handed to the compiler, the stages that it entered. Remarks and questions to data sets reach
none of these collaborators, so two traces with the same *deeds* agree in all three.

The application is driven by actions alone. `Host.after` is what it comes to after a list of them,
and `Attempt.inOrder` is the result of attempts of which each is made only if those before it went
well.
-/

namespace ChartBinding

/-! ## Views of a trace -/

namespace BindEvent

def action? : BindEvent → Option Action
  | dispatched a => some a
  | _ => none

def sketch? : BindEvent → Option Sketch
  | compiled s => some s
  | _ => none

def stage? : BindEvent → Option Stage
  | entered s _ _ => some s
  | _ => none

/-- Whether an event reaches the dispatcher, the compiler or the extractor. -/
def isDeed : BindEvent → Bool
  | dispatched _ => true
  | compiled _ => true
  | entered .. => true
  | consulted _ => false
  | noted _ => false

end BindEvent

/-- What happened in a call, in order. -/
abbrev Trace := List BindEvent

namespace Trace

def actions (t : Trace) : List Action := t.filterMap BindEvent.action?

def sketches (t : Trace) : List Sketch := t.filterMap BindEvent.sketch?

def stages (t : Trace) : List Stage := t.filterMap BindEvent.stage?

/-- The events that reach a collaborator. -/
def deeds (t : Trace) : Trace := t.filter BindEvent.isDeed

theorem actions_append (t u : Trace) : actions (t ++ u) = actions t ++ actions u :=
  List.filterMap_append

theorem sketches_append (t u : Trace) : sketches (t ++ u) = sketches t ++ sketches u :=
  List.filterMap_append

theorem stages_append (t u : Trace) : stages (t ++ u) = stages t ++ stages u :=
  List.filterMap_append

theorem deeds_append (t u : Trace) : deeds (t ++ u) = deeds t ++ deeds u :=
  List.filter_append ..

/-- A view that sees no remark and no question is a view of the deeds. -/
theorem filterMap_deeds {α : Type} (view : BindEvent → Option α)
    (blind : ∀ e, e.isDeed = false → view e = none) (t : Trace) :
    (deeds t).filterMap view = t.filterMap view := by
  unfold deeds
  rw [List.filterMap_filter]
  refine congrArg (List.filterMap · t) (funext fun e => ?_)
  cases he : e.isDeed with
  | true => rfl
  | false => exact (blind e he).symm

theorem actions_deeds (t : Trace) : actions (deeds t) = actions t :=
  filterMap_deeds _ (fun e h => by cases e <;> simp_all [BindEvent.isDeed, BindEvent.action?]) t

theorem sketches_deeds (t : Trace) : sketches (deeds t) = sketches t :=
  filterMap_deeds _ (fun e h => by cases e <;> simp_all [BindEvent.isDeed, BindEvent.sketch?]) t

theorem stages_deeds (t : Trace) : stages (deeds t) = stages t :=
  filterMap_deeds _ (fun e h => by cases e <;> simp_all [BindEvent.isDeed, BindEvent.stage?]) t

/-! A run of dispatches, remarks or questions, as each view sees it. -/

@[simp] theorem actions_dispatched (as : List Action) :
    actions (as.map BindEvent.dispatched) = as := by
  unfold actions
  rw [List.filterMap_map]
  exact List.filterMap_some

@[simp] theorem sketches_dispatched (as : List Action) :
    sketches (as.map BindEvent.dispatched) = [] := by
  unfold sketches
  rw [List.filterMap_map]
  exact List.filterMap_eq_nil_iff.2 fun _ _ => rfl

@[simp] theorem stages_dispatched (as : List Action) :
    stages (as.map BindEvent.dispatched) = [] := by
  unfold stages
  rw [List.filterMap_map]
  exact List.filterMap_eq_nil_iff.2 fun _ _ => rfl

@[simp] theorem deeds_dispatched (as : List Action) :
    deeds (as.map BindEvent.dispatched) = as.map BindEvent.dispatched := by
  refine List.filter_eq_self.2 fun e he => ?_
  obtain ⟨a, -, rfl⟩ := List.mem_map.1 he
  rfl

@[simp] theorem actions_compiled (sketches : List Sketch) :
    actions (sketches.map BindEvent.compiled) = [] := by
  unfold actions
  rw [List.filterMap_map]
  exact List.filterMap_eq_nil_iff.2 fun _ _ => rfl

@[simp] theorem sketches_compiled (ss : List Sketch) :
    sketches (ss.map BindEvent.compiled) = ss := by
  unfold sketches
  rw [List.filterMap_map]
  exact List.filterMap_some

@[simp] theorem stages_compiled (sketches : List Sketch) :
    stages (sketches.map BindEvent.compiled) = [] := by
  unfold stages
  rw [List.filterMap_map]
  exact List.filterMap_eq_nil_iff.2 fun _ _ => rfl

@[simp] theorem deeds_consulted (es : List Dataset.Event) :
    deeds (es.map BindEvent.consulted) = [] := by
  refine List.filter_eq_nil_iff.2 fun e he => ?_
  obtain ⟨a, -, rfl⟩ := List.mem_map.1 he
  exact Bool.false_ne_true

/-! ## The moment of a compilation -/

theorem sketches_ne_nil {t t' : Trace} {s : Sketch} : sketches (t ++ .compiled s :: t') ≠ [] := by
  rw [sketches_append]
  exact List.append_ne_nil_of_right_ne_nil _ (List.cons_ne_nil _ _)

theorem exists_compiled {t : Trace} (h : sketches t ≠ []) :
    ∃ before s later, t = before ++ .compiled s :: later := by
  obtain ⟨s, hs⟩ := List.exists_mem_of_ne_nil _ h
  obtain ⟨e, he, view⟩ := List.mem_filterMap.1 hs
  cases e with
  | compiled s' =>
      obtain ⟨before, later, split⟩ := List.append_of_mem he
      exact ⟨before, s', later, split⟩
  | dispatched _ => cases view
  | entered _ _ _ => cases view
  | consulted _ => cases view
  | noted _ => cases view

/-- What happened before the only compilation of a trace. -/
theorem before_compiled {before : Trace} : ∀ {later t t' : Trace} {s s' : Sketch},
    sketches before = [] → sketches later = [] →
      before ++ .compiled s :: later = t ++ .compiled s' :: t' → t = before ∧ s' = s := by
  -- Both sides are taken apart event by event. Where one of them reaches its compilation first, the
  -- other one has that event before or behind its own, where nothing was compiled.
  induction before with
  | nil =>
      intro later t t' s s' _ hl h
      cases t with
      | nil =>
          obtain ⟨same, -⟩ := List.cons.inj h
          cases same
          exact ⟨rfl, rfl⟩
      | cons e t =>
          rw [(List.cons.inj h).2] at hl
          exact absurd hl sketches_ne_nil
  | cons e before ih =>
      intro later t t' s s' hb hl h
      cases t with
      | nil =>
          rw [(List.cons.inj h).1] at hb
          cases hb
      | cons e' t =>
          obtain ⟨rfl, rest⟩ := List.cons.inj h
          have hb' : sketches before = [] := by
            cases e with
            | compiled _ => cases hb
            | _ => exact hb
          obtain ⟨rfl, same⟩ := ih hb' hl rest
          exact ⟨rfl, same⟩

end Trace

/-! ## Applications and attempts -/

namespace Host

variable {ω : Type}

def after (h : Host ω) (world : ω) (actions : List Action) : ω := actions.foldl h.dispatch world

@[simp] theorem after_nil (h : Host ω) (world : ω) : h.after world [] = world := rfl

@[simp] theorem after_cons (h : Host ω) (world : ω) (a : Action) (actions : List Action) :
    h.after world (a :: actions) = h.after (h.dispatch world a) actions := rfl

theorem after_append (h : Host ω) (world : ω) (actions more : List Action) :
    h.after world (actions ++ more) = h.after (h.after world actions) more :=
  List.foldl_append

end Host

/-- The result of attempts made one after another: the first failure, if there is one. -/
def Attempt.inOrder : List (Attempt Unit) → Attempt Unit
  | [] => .ok ()
  | .ok () :: rest => inOrder rest
  | .error f :: _ => .error f

/-- An attempt of which only the failure counts. -/
def Attempt.void {α : Type} (r : Attempt α) : Attempt Unit := r.map fun _ => ()

/-- What a value is turned into on the way does not count when nothing comes of it. -/
theorem Attempt.map_map_unit {α : Type} (r : Attempt Unit) (f : Unit → α) :
    (r.map f).map (fun _ => ()) = r := by
  cases r <;> rfl

theorem Attempt.inOrder_eq_ok_iff {attempts : List (Attempt Unit)} :
    inOrder attempts = .ok () ↔ ∀ a ∈ attempts, a = .ok () := by
  induction attempts with
  | nil => simp [inOrder]
  | cons a rest ih =>
      cases a with
      | ok _ => simpa [inOrder] using ih
      | error f => simp [inOrder]

end ChartBinding
