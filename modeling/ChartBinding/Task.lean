import ChartBinding.Failure

/-!
# Tasks

A task works on a state, leaves a trace of events and may fail. A failure ends the task and nothing
else: the state reached and the events caused so far stand. `Task.thenAlways` runs one more task
after another, whether that one failed or not.

A task never takes an event back, so the trace of a sequence of tasks is the traces of its members
one after another (`Task.run_bind`).
-/

namespace ChartBinding

structure Outcome (σ ε α : Type) where
  state : σ
  events : List ε
  result : Attempt α

/-- An activity on a state `σ` that causes events `ε` and gives an `α` or fails. -/
def Task (σ ε α : Type) : Type := σ → Outcome σ ε α

namespace Task

variable {σ ε α β : Type}

def run (t : Task σ ε α) (s : σ) : Outcome σ ε α := t s

@[ext] theorem ext {t t' : Task σ ε α} (h : ∀ s, t.run s = t'.run s) : t = t' := funext h

/-- The task that does nothing and gives `a`. -/
def done (a : α) : Task σ ε α := fun s => ⟨s, [], .ok a⟩

/-- One task after another, unless the first fails. -/
def andThen (t : Task σ ε α) (f : α → Task σ ε β) : Task σ ε β := fun s =>
  let o := t s
  match o.result with
  | .error e => ⟨o.state, o.events, .error e⟩
  | .ok a => let p := f a o.state; ⟨p.state, o.events ++ p.events, p.result⟩

instance : Monad (Task σ ε) where
  pure := done
  bind := andThen

/-! ## Single steps -/

def state : Task σ ε σ := fun s => ⟨s, [], .ok s⟩

def update (f : σ → σ) : Task σ ε Unit := fun s => ⟨f s, [], .ok ()⟩

def emit (events : List ε) : Task σ ε Unit := fun s => ⟨s, events, .ok ()⟩

/-- Gives what an attempt gave, or fails as it failed. -/
def ofAttempt (r : Attempt α) : Task σ ε α := fun s => ⟨s, [], r⟩

def fail (f : Failure) : Task σ ε α := ofAttempt (.error f)

/-- A task with another run after it in every case; the first one's result counts, unless only the
last one fails. -/
def thenAlways (t : Task σ ε α) (last : Task σ ε Unit) : Task σ ε α := fun s =>
  let first := t s
  let final := last first.state
  { state := final.state
    events := first.events ++ final.events
    result := first.result.bind fun a => final.result.map fun _ => a }

/-! ## Laws -/

@[simp] theorem run_pure (a : α) (s : σ) : (pure a : Task σ ε α).run s = ⟨s, [], .ok a⟩ := rfl

theorem run_bind (t : Task σ ε α) (f : α → Task σ ε β) (s : σ) :
    (t >>= f).run s =
      match (t.run s).result with
      | .error e => ⟨(t.run s).state, (t.run s).events, .error e⟩
      | .ok a =>
        ⟨((f a).run (t.run s).state).state,
          (t.run s).events ++ ((f a).run (t.run s).state).events,
          ((f a).run (t.run s).state).result⟩ := rfl

@[simp] theorem run_state (s : σ) : (state : Task σ ε σ).run s = ⟨s, [], .ok s⟩ := rfl

@[simp] theorem run_update (f : σ → σ) (s : σ) :
    (update f : Task σ ε Unit).run s = ⟨f s, [], .ok ()⟩ := rfl

@[simp] theorem run_emit (events : List ε) (s : σ) :
    (emit events : Task σ ε Unit).run s = ⟨s, events, .ok ()⟩ := rfl

@[simp] theorem run_ofAttempt (r : Attempt α) (s : σ) :
    (ofAttempt r : Task σ ε α).run s = ⟨s, [], r⟩ := rfl

@[simp] theorem run_fail (f : Failure) (s : σ) :
    (fail f : Task σ ε α).run s = ⟨s, [], .error f⟩ := rfl

instance : LawfulMonad (Task σ ε) :=
  LawfulMonad.mk' _
    (fun t => Task.ext fun s => by
      show (t >>= fun a => pure a).run s = t.run s
      rw [run_bind]
      cases h : (t.run s).result <;> simp [← h])
    (fun a f => Task.ext fun s => by simp [run_bind])
    (fun t f g => Task.ext fun s => by
      simp only [run_bind]
      cases (t.run s).result with
      | error e => rfl
      | ok a => cases h : ((f a).run (t.run s).state).result <;> simp [h])

end Task

end ChartBinding
