import ChartBinding.Proofs.Course

/-!
# Sessions

A session is what a binder is asked for over time, one call after another. Between two calls the
application may change without the binder; a session without such changes is *closed*. Each call
finds the workspace as the session has left it (`Visit`), and what it came to is `Binder.outcome`.

The visits of a session are determined from the front, so a session is cut at any turn
(`visits_append`) and at any call (`visits_cut`). In a closed session the application moves by
dispatched actions alone, so it is known at any moment from the actions so far (`start_world`,
`world_after_calls`).
-/

namespace ChartBinding

namespace Binder.Request

/-- Whether a call forgets a mark. -/
def forgets (m : MarkId) : Request → Bool
  | .evict n => n == m
  | .reset => true
  | _ => false

/-- Whether a call is for a mark. -/
def concerns (m : MarkId) : Request → Bool
  | .bind _ r => r.mark == m
  | .unbind n _ => n == m
  | .evict n => n == m
  | .reset => true

end Binder.Request

inductive Turn (ω : Type) where
  | call (q : Binder.Request)
  /-- The application changes from outside. -/
  | change (f : ω → ω)

/-- A call of a session, with the workspace that it found. -/
structure Visit (σ ω : Type) where
  start : Workspace σ ω
  request : Binder.Request

namespace Binder

variable {σ ω : Type}

/-- The binder of an application that is the scene. -/
def onScene (settings : Settings) (compiler : Compiler) (extractor : Extractor σ Scene) :
    Binder σ Scene :=
  ⟨settings, compiler, extractor, Scene.host⟩

def outcome (b : Binder σ ω) (x : Visit σ ω) : Outcome (Workspace σ ω) BindEvent Unit :=
  (b.handle x.request).run x.start

def actionsOf (b : Binder σ ω) (x : Visit σ ω) : List Action := Trace.actions (b.outcome x).events

def turn (b : Binder σ ω) (w : Workspace σ ω) : Turn ω → Workspace σ ω
  | .call q => (b.outcome ⟨w, q⟩).state
  | .change f => { w with world := f w.world }

def after (b : Binder σ ω) (w : Workspace σ ω) (turns : List (Turn ω)) : Workspace σ ω :=
  turns.foldl b.turn w

/-- The calls of a session, in order. -/
def visits (b : Binder σ ω) : Workspace σ ω → List (Turn ω) → List (Visit σ ω)
  | _, [] => []
  | w, .call q :: rest => ⟨w, q⟩ :: visits b (b.turn w (.call q)) rest
  | w, .change f :: rest => visits b (b.turn w (.change f)) rest

variable (b : Binder σ ω)

/-! ## Cutting sessions -/

theorem after_append (w : Workspace σ ω) (turns more : List (Turn ω)) :
    b.after w (turns ++ more) = b.after (b.after w turns) more :=
  List.foldl_append

theorem visits_append (turns more : List (Turn ω)) : ∀ w : Workspace σ ω,
    b.visits w (turns ++ more) = b.visits w turns ++ b.visits (b.after w turns) more := by
  induction turns with
  | nil =>
      intro w
      rfl
  | cons t turns ih =>
      intro w
      cases t with
      | call q => exact congrArg _ (ih _)
      | change f => exact ih _

/-- A session is cut at any of its calls. -/
theorem visits_cut (turns : List (Turn ω)) :
    ∀ {w : Workspace σ ω} {earlier later : List (Visit σ ω)} {x : Visit σ ω},
      b.visits w turns = earlier ++ x :: later → ∃ before behind,
        turns = before ++ .call x.request :: behind ∧ b.visits w before = earlier ∧
          b.after w before = x.start ∧ b.visits (b.outcome x).state behind = later := by
  induction turns with
  | nil =>
      intro w earlier later x h
      exact absurd h.symm (List.append_ne_nil_of_right_ne_nil _ (List.cons_ne_nil _ _))
  | cons t turns ih =>
      intro w earlier later x h
      cases t with
      | change f =>
          obtain ⟨before, behind, rfl, visits, start, rest⟩ := ih h
          exact ⟨.change f :: before, behind, rfl, visits, start, rest⟩
      | call q =>
          cases earlier with
          | nil =>
              obtain ⟨rfl, rest⟩ := List.cons.inj h
              exact ⟨[], turns, rfl, rfl, rfl, rest⟩
          | cons y earlier =>
              obtain ⟨rfl, tail⟩ := List.cons.inj h
              obtain ⟨before, behind, rfl, visits, start, rest⟩ := ih tail
              exact ⟨.call q :: before, behind, rfl, congrArg _ visits, start, rest⟩

/-- What holds at the beginning and is kept by every turn holds at the end, and every call finds
it. -/
theorem invariant {P : Workspace σ ω → Prop} (kept : ∀ w t, P w → P (b.turn w t))
    (turns : List (Turn ω)) :
    ∀ w, P w → P (b.after w turns) ∧ ∀ x ∈ b.visits w turns, P x.start := by
  induction turns with
  | nil =>
      intro w h
      exact ⟨h, nofun⟩
  | cons t turns ih =>
      intro w h
      obtain ⟨final, found⟩ := ih _ (kept w t h)
      refine ⟨final, ?_⟩
      cases t with
      | change f => exact found
      | call q =>
          intro x hx
          rcases List.mem_cons.1 hx with rfl | hx
          · exact h
          · exact found x hx

/-! ## Closed sessions -/

/-- In a call the application moves by the dispatched actions. -/
theorem world_outcome (x : Visit σ ω) :
    (b.outcome x).state.world = b.host.after x.start.world (b.actionsOf x) := by
  obtain ⟨w, q⟩ := x
  cases q with
  | bind datasets r =>
      obtain ⟨_, _, _, _, account⟩ := (b.course datasets r w).exists_account
      exact account.world_eq
  | unbind mark property => exact (b.account_unbind w mark property).world_eq
  | evict mark => exact (b.account_evict w mark).world_eq
  | reset => exact (b.account_reset w).world_eq

/-- The actions of visits, one after another. -/
def actionsOfAll (xs : List (Visit σ ω)) : List Action := xs.flatMap b.actionsOf

theorem actionsOfAll_append (xs ys : List (Visit σ ω)) :
    b.actionsOfAll (xs ++ ys) = b.actionsOfAll xs ++ b.actionsOfAll ys :=
  List.flatMap_append

/-- In a closed session the application moves by the dispatched actions. -/
theorem world_after_calls (requests : List Request) : ∀ w : Workspace σ ω,
    (b.after w (requests.map .call)).world =
      b.host.after w.world (b.actionsOfAll (b.visits w (requests.map .call))) := by
  induction requests with
  | nil =>
      intro w
      rfl
  | cons q requests ih =>
      intro w
      show (b.after (b.outcome ⟨w, q⟩).state (requests.map .call)).world =
        b.host.after w.world (b.actionsOf ⟨w, q⟩ ++ b.actionsOfAll (b.visits _ _))
      rw [ih, world_outcome, Host.after_append]
      rfl

/-- A call of a closed session finds the application as the actions before it have made it. -/
theorem start_world (requests : List Request) {w : Workspace σ ω}
    {earlier later : List (Visit σ ω)} {x : Visit σ ω}
    (h : b.visits w (requests.map .call) = earlier ++ x :: later) :
    x.start.world = b.host.after w.world (b.actionsOfAll earlier) := by
  obtain ⟨before, behind, turns, visits, start, -⟩ := b.visits_cut _ h
  obtain ⟨first, rest, -, rfl, -⟩ := List.map_eq_append_iff.1 turns
  rw [← start, ← visits, world_after_calls]

end Binder

end ChartBinding
