import ChartBinding.Proofs.Trace

/-!
# Accounts of jobs

An account of a job says in which book and with which tools it ended, what its deeds were, and what
it came to. The application is not mentioned: it has followed the dispatched actions, and that is
part of every account.

Accounts compose. A job that succeeds passes its book and tools on to the next one and their deeds
are joined (`Account.andThen`); after a failure nothing more is done (`Account.stops`); and a batch
puts a start before the deeds of its body and an end after them, whatever its body comes to
(`Account.inBatch`). So the account of a whole call is put together from those of its steps, and no
proof has to open the state of a job.
-/

namespace ChartBinding

theorem Task.run_thenAlways {σ ε α : Type} (t : Task σ ε α) (last : Task σ ε Unit) (s : σ) :
    (t.thenAlways last).run s =
      ⟨(last.run (t.run s).state).state,
        (t.run s).events ++ (last.run (t.run s).state).events,
        (t.run s).result.bind fun a => (last.run (t.run s).state).result.map fun _ => a⟩ := rfl

namespace Trace

/-- The deeds of a batch whose body does `ds`. -/
def batched (ds : Trace) : Trace :=
  .dispatched .startBatch :: (ds ++ [.dispatched .endBatch])

@[simp] theorem actions_batched (ds : Trace) :
    actions (batched ds) = .startBatch :: (actions ds ++ [.endBatch]) :=
  congrArg (List.cons Action.startBatch) (actions_append ds [.dispatched .endBatch])

@[simp] theorem sketches_batched (ds : Trace) : sketches (batched ds) = sketches ds :=
  (sketches_append ds [.dispatched .endBatch]).trans (List.append_nil _)

@[simp] theorem stages_batched (ds : Trace) : stages (batched ds) = stages ds :=
  (stages_append ds [.dispatched .endBatch]).trans (List.append_nil _)

end Trace

namespace Binder

variable {σ ω α β : Type}

/-- What a job came to, started from the workspace `w`. -/
structure Account (b : Binder σ ω) (w : Workspace σ ω)
    (o : Outcome (Workspace σ ω) BindEvent α) (book : Sketchbook) (tools : σ) (deeds : Trace)
    (result : Attempt α) : Prop where
  state : o.state = ⟨book, tools, b.host.after w.world (Trace.actions deeds)⟩
  deeds : Trace.deeds o.events = deeds
  result : o.result = result

namespace Account

variable {b : Binder σ ω} {w : Workspace σ ω} {book book' : Sketchbook} {tools tools' : σ}
  {ds ds' : Trace}

theorem actions {o : Outcome (Workspace σ ω) BindEvent α} {r : Attempt α}
    (h : b.Account w o book tools ds r) : Trace.actions o.events = Trace.actions ds := by
  rw [← h.deeds, Trace.actions_deeds]

theorem sketches {o : Outcome (Workspace σ ω) BindEvent α} {r : Attempt α}
    (h : b.Account w o book tools ds r) : Trace.sketches o.events = Trace.sketches ds := by
  rw [← h.deeds, Trace.sketches_deeds]

theorem stages {o : Outcome (Workspace σ ω) BindEvent α} {r : Attempt α}
    (h : b.Account w o book tools ds r) : Trace.stages o.events = Trace.stages ds := by
  rw [← h.deeds, Trace.stages_deeds]

theorem book_eq {o : Outcome (Workspace σ ω) BindEvent α} {r : Attempt α}
    (h : b.Account w o book tools ds r) : o.state.book = book :=
  congrArg Workspace.book h.state

theorem tools_eq {o : Outcome (Workspace σ ω) BindEvent α} {r : Attempt α}
    (h : b.Account w o book tools ds r) : o.state.tools = tools :=
  congrArg Workspace.tools h.state

/-- The application has followed the dispatched actions. -/
theorem world_eq {o : Outcome (Workspace σ ω) BindEvent α} {r : Attempt α}
    (h : b.Account w o book tools ds r) :
    o.state.world = b.host.after w.world (Trace.actions o.events) := by
  rw [h.actions]
  exact congrArg Workspace.world h.state

/-! ## Composition -/

theorem andThen {t : Job σ ω α} {f : α → Job σ ω β} {a : α} {r : Attempt β}
    (first : b.Account w (t.run w) book tools ds (.ok a))
    (next : b.Account ⟨book, tools, b.host.after w.world (Trace.actions ds)⟩
      ((f a).run ⟨book, tools, b.host.after w.world (Trace.actions ds)⟩) book' tools' ds' r) :
    b.Account w ((t >>= f).run w) book' tools' (ds ++ ds') r := by
  rw [Task.run_bind, first.result, first.state]
  refine ⟨?_, ?_, next.result⟩
  · rw [next.state, Trace.actions_append, Host.after_append]
  · rw [Trace.deeds_append, first.deeds, next.deeds]

theorem stops {t : Job σ ω α} {f : α → Job σ ω β} {e : Failure}
    (first : b.Account w (t.run w) book tools ds (.error e)) :
    b.Account w ((t >>= f).run w) book tools ds (.error e) := by
  rw [Task.run_bind, first.result]
  exact ⟨first.state, first.deeds, rfl⟩

/-- A job made of two is accounted for by the second, if the first only looks something up. -/
theorem look {t : Job σ ω α} {f : α → Job σ ω β} {a : α} {r : Attempt β}
    (first : b.Account w (t.run w) w.book w.tools [] (.ok a))
    (next : b.Account w ((f a).run w) book tools ds r) :
    b.Account w ((t >>= f).run w) book tools ds r :=
  first.andThen next

/-- A job may go on with one that only looks something up, and is accounted for by the first. -/
theorem thenLook {t : Job σ ω α} {f : α → Job σ ω β} {g : α → β} {r : Attempt α}
    (first : b.Account w (t.run w) book tools ds r)
    (next : ∀ a v, b.Account v ((f a).run v) v.book v.tools [] (.ok (g a))) :
    b.Account w ((t >>= f).run w) book tools ds (r.map g) := by
  cases r with
  | error e => exact first.stops
  | ok a =>
      have both := first.andThen (next a _)
      rw [List.append_nil] at both
      exact both

/-! ## Single steps -/

theorem done (b : Binder σ ω) (w : Workspace σ ω) (a : α) :
    b.Account w ((pure a : Job σ ω α).run w) w.book w.tools [] (.ok a) :=
  ⟨rfl, rfl, rfl⟩

theorem ofState (b : Binder σ ω) (w : Workspace σ ω) :
    b.Account w ((Task.state : Job σ ω _).run w) w.book w.tools [] (.ok w) :=
  ⟨rfl, rfl, rfl⟩

theorem ofAttempt (b : Binder σ ω) (w : Workspace σ ω) {t r : Attempt α} (h : t = r) :
    b.Account w ((Task.ofAttempt t : Job σ ω α).run w) w.book w.tools [] r :=
  ⟨rfl, rfl, h⟩

theorem ofNote (b : Binder σ ω) (w : Workspace σ ω) (n : Note) :
    b.Account w ((note n : Job σ ω Unit).run w) w.book w.tools [] (.ok ()) :=
  ⟨rfl, rfl, rfl⟩

theorem ofEdit (b : Binder σ ω) (w : Workspace σ ω) (f : Sketchbook → Sketchbook) :
    b.Account w ((editBook f : Job σ ω Unit).run w) (f w.book) w.tools [] (.ok ()) :=
  ⟨rfl, rfl, rfl⟩

theorem ofDispatch (b : Binder σ ω) (w : Workspace σ ω) (a : Action) :
    b.Account w ((b.dispatch a).run w) w.book w.tools [.dispatched a] (.ok ()) :=
  ⟨rfl, rfl, rfl⟩

theorem ofEmit (b : Binder σ ω) (w : Workspace σ ω) (events : Trace)
    (h : Trace.actions events = []) :
    b.Account w ((Task.emit events : Job σ ω Unit).run w) w.book w.tools (Trace.deeds events)
      (.ok ()) := by
  refine ⟨?_, rfl, rfl⟩
  rw [Trace.actions_deeds, h]
  rfl

/-! ## Batches -/

/-- A batch is closed after its body, and its result is the body's. -/
theorem inBatch {body : Job σ ω α} {r : Attempt α}
    (h : b.Account ⟨w.book, w.tools, b.host.dispatch w.world .startBatch⟩
      (body.run ⟨w.book, w.tools, b.host.dispatch w.world .startBatch⟩) book tools ds r) :
    b.Account w ((batch b.dispatch body).run w) book tools (Trace.batched ds) r := by
  -- `andThen` does not serve for the end of the batch, which is dispatched also after a failure.
  have closed : b.Account ⟨w.book, w.tools, b.host.dispatch w.world .startBatch⟩
      ((body.thenAlways (b.dispatch .endBatch)).run
        ⟨w.book, w.tools, b.host.dispatch w.world .startBatch⟩)
      book tools (ds ++ [.dispatched .endBatch]) r := by
    have last := ofDispatch b ⟨book, tools, b.host.after (b.host.dispatch w.world .startBatch)
      (Trace.actions ds)⟩ .endBatch
    rw [Task.run_thenAlways, h.state]
    refine ⟨?_, ?_, ?_⟩
    · rw [last.state, Trace.actions_append, Host.after_append]
    · rw [Trace.deeds_append, h.deeds, last.deeds]
    · rw [h.result, last.result]
      cases r <;> rfl
  exact (ofDispatch b w .startBatch).andThen closed

end Account

end Binder

end ChartBinding
