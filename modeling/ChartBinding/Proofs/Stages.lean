import ChartBinding.Proofs.Account
import ChartBinding.Proofs.Book

/-!
# Stages

What an extractor is given for a stage is a performance. The performances of an extraction follow
each other as long as none fails, each on what the one before it left: its tools, the application as
its actions have made it, and its envelope. The identities of the mark are those of the last
performance, also if that one failed.
-/

namespace ChartBinding

/-! ## Performances -/

/-- What the extractor is given for a stage. -/
structure Performance (σ ω : Type) where
  stage : Stage
  tools : σ
  world : ω
  envelope : Envelope

variable {σ ω : Type}

/-- What the extractor is given for the stage `s` in a workspace. -/
def Workspace.given (w : Workspace σ ω) (s : Stage) (e : Envelope) : Performance σ ω :=
  ⟨s, w.tools, w.world, e⟩

namespace Binder

def report (b : Binder σ ω) (p : Performance σ ω) : StageReport σ :=
  b.extractor.perform p.stage p.tools p.world p.envelope

/-- What the extractor is given for the stage `s` after another performance. -/
def next (b : Binder σ ω) (p : Performance σ ω) (s : Stage) : Performance σ ω :=
  ⟨s, (b.report p).tools, b.host.after p.world (b.report p).actions, (b.report p).envelope⟩

/-- A performance and those of the stages after it, up to the first that fails. -/
def performances (b : Binder σ ω) (p : Performance σ ω) : List Stage → List (Performance σ ω)
  | [] => [p]
  | s :: rest =>
    match (b.report p).result with
    | .ok _ => p :: performances b (b.next p s) rest
    | .error _ => [p]

/-- The deeds of a stage: it is entered, and its actions are dispatched. -/
def performed (b : Binder σ ω) (id : MarkId) (p : Performance σ ω) : Trace :=
  .entered p.stage p.envelope ((b.host.mark? p.world id).bind (·.link))
    :: (b.report p).actions.map .dispatched

/-- The result of performances: that of the first one that failed, if one did. -/
def resultOf (b : Binder σ ω) (ps : List (Performance σ ω)) : Attempt Unit :=
  Attempt.inOrder (ps.map fun p => (b.report p).result)

@[simp] theorem actions_performed (b : Binder σ ω) (id : MarkId) (p : Performance σ ω) :
    Trace.actions (b.performed id p) = (b.report p).actions :=
  Trace.actions_dispatched _

@[simp] theorem sketches_performed (b : Binder σ ω) (id : MarkId) (p : Performance σ ω) :
    Trace.sketches (b.performed id p) = [] :=
  Trace.sketches_dispatched _

@[simp] theorem stages_performed (b : Binder σ ω) (id : MarkId) (p : Performance σ ω) :
    Trace.stages (b.performed id p) = [p.stage] :=
  congrArg (p.stage :: ·) (Trace.stages_dispatched _)

theorem actions_flatMap_performed (b : Binder σ ω) (id : MarkId) (ps : List (Performance σ ω)) :
    Trace.actions (ps.flatMap (b.performed id)) = ps.flatMap fun p => (b.report p).actions := by
  unfold Trace.actions
  rw [List.filterMap_flatMap]
  exact congrArg (List.flatMap · ps) (funext fun p => b.actions_performed id p)

theorem sketches_flatMap_performed (b : Binder σ ω) (id : MarkId) (ps : List (Performance σ ω)) :
    Trace.sketches (ps.flatMap (b.performed id)) = [] := by
  unfold Trace.sketches
  rw [List.filterMap_flatMap]
  exact List.flatMap_eq_nil_iff.2 fun p _ => b.sketches_performed id p

/-- A stage leaves its identities in the book also if it fails. -/
theorem account_stage (b : Binder σ ω) (id : MarkId) (w : Workspace σ ω) (s : Stage)
    (e : Envelope) :
    b.Account w ((b.stage id s e).run w)
      (w.book.setIdentities id (b.report (w.given s e)).envelope.identities)
      (b.report (w.given s e)).tools (b.performed id (w.given s e))
      ((b.report (w.given s e)).result.map fun _ => (b.report (w.given s e)).envelope) := by
  have ran : (b.stage id s e).run w =
      ⟨⟨w.book.setIdentities id (b.report (w.given s e)).envelope.identities,
          (b.report (w.given s e)).tools, b.host.after w.world (b.report (w.given s e)).actions⟩,
        b.performed id (w.given s e),
        (b.report (w.given s e)).result.map fun _ => (b.report (w.given s e)).envelope⟩ := by
    unfold stage
    simp only [Task.run_bind, Task.run_state, Task.run_emit, Task.run_update, Task.run_ofAttempt,
      Task.run_pure]
    unfold performed report Workspace.given
    cases (b.extractor.perform s w.tools w.world e).result with
    | error f => simp [Host.after, Except.map]
    | ok _ => simp [Host.after, Except.map]
  rw [ran]
  refine ⟨?_, ?_, rfl⟩
  · rw [actions_performed]
  · rw [performed, Trace.deeds, List.filter_cons_of_pos rfl]
    exact congrArg _ (Trace.deeds_dispatched _)

/-- If the first stage fails, its account is that of the extraction. -/
theorem account_extract_of_error (b : Binder σ ω) (id : MarkId) (w : Workspace σ ω) (s : Stage)
    (rest : List Stage) (e : Envelope) {f : Failure}
    (h : (b.report (w.given s e)).result = .error f) :
    b.Account w ((b.extract id (s :: rest) e).run w)
      (w.book.setIdentities id (b.report (w.given s e)).envelope.identities)
      (b.report (w.given s e)).tools (b.performed id (w.given s e)) (.error f) := by
  have first := b.account_stage id w s e
  rw [h] at first
  exact first.stops

/-- The account of stages performed one after another: the last one performed left the identities
and the tools. -/
theorem account_extract (b : Binder σ ω) (id : MarkId) (rest : List Stage) :
    ∀ (s : Stage) (w : Workspace σ ω) (e : Envelope), ∃ earlier last,
      b.performances (w.given s e) rest = earlier ++ [last] ∧
      b.Account w ((b.extract id (s :: rest) e).run w)
        (w.book.setIdentities id (b.report last).envelope.identities) (b.report last).tools
        ((earlier ++ [last]).flatMap (b.performed id))
        ((b.resultOf (earlier ++ [last])).map fun _ => (b.report last).envelope) := by
  -- Induction on the stages still to come, for every workspace: a stage that went well hands its
  -- workspace on, and the identities it wrote are overwritten by those of the last one.
  induction rest with
  | nil =>
      intro s w e
      refine ⟨[], w.given s e, rfl, ?_⟩
      cases h : (b.report (w.given s e)).result with
      | error f =>
          simpa [resultOf, Attempt.inOrder, Except.map, h] using
            b.account_extract_of_error id w s [] e h
      | ok _ =>
          have first := b.account_stage id w s e
          rw [h] at first
          have both : b.Account w ((b.extract id [s] e).run w) _ _ _ _ :=
            first.andThen (f := b.extract id []) (Account.done b _ _)
          simpa only [resultOf, Attempt.inOrder, Except.map, h, List.nil_append, List.append_nil,
            List.map_cons, List.map_nil, List.flatMap_cons, List.flatMap_nil] using both
  | cons s' rest ih =>
      intro s w e
      cases h : (b.report (w.given s e)).result with
      | error f =>
          refine ⟨[], w.given s e, ?_, ?_⟩
          · simp only [performances, h, List.nil_append]
          · simpa [resultOf, Attempt.inOrder, Except.map, h] using
              b.account_extract_of_error id w s (s' :: rest) e h
      | ok _ =>
          have first := b.account_stage id w s e
          rw [h] at first
          obtain ⟨earlier, last, hps, later⟩ := ih s'
            ⟨w.book.setIdentities id (b.report (w.given s e)).envelope.identities,
              (b.report (w.given s e)).tools,
              b.host.after w.world (Trace.actions (b.performed id (w.given s e)))⟩
            (b.report (w.given s e)).envelope
          refine ⟨w.given s e :: earlier, last, ?_, ?_⟩
          · rw [actions_performed] at hps
            simp only [performances, h]
            exact congrArg _ hps
          · have both : b.Account w ((b.extract id (s :: s' :: rest) e).run w) _ _ _ _ :=
              first.andThen (f := b.extract id (s' :: rest)) later
            rw [Sketchbook.setIdentities_setIdentities] at both
            simpa only [resultOf, Attempt.inOrder, h, List.cons_append, List.map_cons,
              List.flatMap_cons] using both

/-! ## Which stages run -/

theorem stages_performances (b : Binder σ ω) (rest : List Stage) :
    ∀ p : Performance σ ω, (b.performances p rest).map (·.stage) <+: p.stage :: rest := by
  induction rest with
  | nil =>
      intro p
      exact List.prefix_refl _
  | cons s rest ih =>
      intro p
      unfold performances
      cases (b.report p).result with
      | ok _ => exact (List.cons_prefix_cons).2 ⟨rfl, ih (b.next p s)⟩
      | error f => exact ⟨s :: rest, rfl⟩

theorem performances_eq_cons (b : Binder σ ω) (p : Performance σ ω) (rest : List Stage) :
    ∃ later, b.performances p rest = p :: later := by
  cases rest with
  | nil => exact ⟨[], rfl⟩
  | cons s rest =>
      unfold performances
      cases (b.report p).result with
      | ok _ => exact ⟨_, rfl⟩
      | error f => exact ⟨[], rfl⟩

/-- A performance that has another after it went well, and the other was given what it left. -/
theorem next_of_performances (b : Binder σ ω) (rest : List Stage) :
    ∀ (p : Performance σ ω) {earlier later : List (Performance σ ω)} {q q' : Performance σ ω},
      b.performances p rest = earlier ++ q :: q' :: later →
        (b.report q).result = .ok () ∧ q' = b.next q q'.stage := by
  -- A list of performances with two members was not cut off at the first, so that one went well.
  induction rest with
  | nil =>
      intro p earlier later q q' h
      have one := congrArg List.length h
      simp only [performances, List.length_append, List.length_cons, List.length_nil] at one
      omega
  | cons s rest ih =>
      intro p earlier later q q' h
      unfold performances at h
      cases result : (b.report p).result with
      | error f =>
          have one := congrArg List.length h
          simp only [result, List.length_append, List.length_cons, List.length_nil] at one
          omega
      | ok _ =>
          simp only [result] at h
          cases earlier with
          | cons _ earlier => exact ih (b.next p s) (List.cons.inj h).2
          | nil =>
              obtain ⟨rfl, rest_eq⟩ := List.cons.inj h
              obtain ⟨_, head_eq⟩ := b.performances_eq_cons (b.next p s) rest
              rw [head_eq] at rest_eq
              obtain ⟨rfl, -⟩ := List.cons.inj rest_eq
              exact ⟨result, rfl⟩

theorem stages_performances_of_ok (b : Binder σ ω) (rest : List Stage) :
    ∀ p : Performance σ ω, (∀ q ∈ b.performances p rest, (b.report q).result = .ok ()) →
      (b.performances p rest).map (·.stage) = p.stage :: rest := by
  induction rest with
  | nil =>
      intro p _
      rfl
  | cons s rest ih =>
      intro p all
      unfold performances at all ⊢
      cases h : (b.report p).result with
      | error f =>
          rw [h] at all
          have failed := all p List.mem_cons_self
          rw [h] at failed
          cases failed
      | ok _ =>
          simp only [h] at all ⊢
          have later : (b.performances (b.next p s) rest).map (·.stage) = s :: rest :=
            ih (b.next p s) fun q hq => all q (List.mem_cons_of_mem p hq)
          exact congrArg (p.stage :: ·) later

end Binder

end ChartBinding
