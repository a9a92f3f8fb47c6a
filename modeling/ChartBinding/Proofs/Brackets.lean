import ChartBinding.Proofs.Account
import ChartBinding.Script
import Mathlib.Data.List.Infix

/-!
# Starts and ends of batches

The actions that a script leaves behind do not tell which end belongs to which start, nor whether a
script has dispatched a start or an end by itself. Its *moments* do: the opening and the closing of
the batch at a place, and the actions that were dispatched there.

The course of a script is what it would go through from its first step to its last, failures
included. What a run goes through is that course up to the first failure, and then the closing of
every batch that is open there, the innermost first (`Script.moments`). Such moments are nested:
between the opening of a batch and its closing is what happened in this batch and nothing else
(`Script.Nested`).
-/

namespace ChartBinding

namespace Action

def isStart : Action → Bool
  | startBatch => true
  | _ => false

def isEnd : Action → Bool
  | endBatch => true
  | _ => false

/-- Neither a start nor an end. -/
def isPlain (a : Action) : Bool := !a.isStart && !a.isEnd

end Action

/-! ## Brackets -/

/-- Every end in a list comes after a start of its own. -/
structure Bracketed {α : Type} (start stop : α → Bool) (l : List α) : Prop where
  /-- No beginning of the list has more ends than starts. -/
  level : ∀ n, (l.take n).countP stop ≤ (l.take n).countP start
  /-- The whole list has as many. -/
  equal : l.countP stop = l.countP start

namespace Bracketed

variable {α β : Type} {start stop : α → Bool} {l l' : List α}

theorem nil : Bracketed start stop [] where
  level n := by rw [List.take_nil, List.countP_nil, List.countP_nil]
  equal := rfl

theorem append (h : Bracketed start stop l) (h' : Bracketed start stop l') :
    Bracketed start stop (l ++ l') where
  level n := by
    rw [List.take_append, List.countP_append, List.countP_append]
    exact Nat.add_le_add (h.level n) (h'.level (n - l.length))
  equal := by rw [List.countP_append, List.countP_append, h.equal, h'.equal]

theorem single {a : α} (noStart : start a = false) (noStop : stop a = false) :
    Bracketed start stop [a] where
  level n := by
    cases n with
    | zero => exact Nat.le_refl 0
    | succ n => simp [noStop]
  equal := by simp [noStart, noStop]

theorem wrap {a b : α} (opens : start a = true ∧ stop a = false)
    (closes : start b = false ∧ stop b = true) (h : Bracketed start stop l) :
    Bracketed start stop (a :: (l ++ [b])) where
  level n := by
    cases n with
    | zero => exact Nat.le_refl 0
    | succ n =>
        -- The end behind `l` is the only one that has no start in `l`, and `a` is its start.
        have inner := h.level n
        have last : (([b] : List α).take (n - l.length)).countP stop ≤ 1 :=
          List.countP_le_length.trans (List.length_take_le' _ _)
        rw [List.take_succ_cons, List.take_append, List.countP_cons, List.countP_cons,
          List.countP_append, List.countP_append, opens.1, opens.2, if_pos rfl,
          if_neg Bool.false_ne_true]
        omega
  equal := by
    have inner := h.equal
    simp only [List.countP_cons, List.countP_append, List.countP_nil, opens, closes, inner]
    simp

theorem map {start' stop' : β → Bool} {f : α → β} (h : Bracketed start stop l)
    (starts : ∀ a ∈ l, start' (f a) = start a) (stops : ∀ a ∈ l, stop' (f a) = stop a) :
    Bracketed start' stop' (l.map f) := by
  have counts : ∀ k : List α, k ⊆ l → (k.map f).countP stop' = k.countP stop ∧
      (k.map f).countP start' = k.countP start := by
    intro k sub
    rw [List.countP_map, List.countP_map]
    exact ⟨List.countP_congr fun a ha => by rw [Function.comp_apply, stops a (sub ha)],
      List.countP_congr fun a ha => by rw [Function.comp_apply, starts a (sub ha)]⟩
  refine ⟨fun n => ?_, ?_⟩
  · obtain ⟨stopped, started⟩ := counts (l.take n) (List.take_subset n l)
    rw [← List.map_take, stopped, started]
    exact h.level n
  · obtain ⟨stopped, started⟩ := counts l (List.Subset.refl l)
    rw [stopped, started, h.equal]

end Bracketed

namespace Script

/-! ## Moments -/

/-- Where a batch stands: its step in the batch around it, behind the place of that one. -/
abbrev Place := List Nat

/-- Something that happens when a script is run. -/
inductive Moment where
  | opened (p : Place)
  /-- An action is dispatched in a batch, by a step of its own. -/
  | did (p : Place) (a : Action)
  | closed (p : Place)

namespace Moment

/-- The batch in which something happens. -/
def place : Moment → Place
  | opened p => p
  | did p _ => p
  | closed p => p

/-- What is recorded of a moment. -/
def action : Moment → Action
  | opened _ => .startBatch
  | did _ a => a
  | closed _ => .endBatch

def did? : Moment → Option Action
  | did _ a => some a
  | _ => none

def isOpened : Moment → Bool
  | opened _ => true
  | _ => false

def isClosed : Moment → Bool
  | closed _ => true
  | _ => false

/-- The batch that is closed. -/
def closed? : Moment → Option Place
  | closed p => some p
  | _ => none

/-- The open batches after a moment, the innermost first. -/
def leaveOpen (stack : List Place) : Moment → List Place
  | opened p => p :: stack
  | did _ _ => stack
  | closed _ => stack.tail

end Moment

/-- The batches that are open after some moments, the innermost first. -/
def openAfter (ms : List Moment) : List Place := ms.foldl Moment.leaveOpen []

mutual

/-- What a step would go through, as the `i`-th step of the batch at `p`. -/
def Step.course (p : Place) (i : Nat) : Step → List (Attempt Moment)
  | .dispatch a => [.ok (.did p a)]
  | .batch steps =>
    .ok (.opened (p ++ [i])) :: (stepsCourse (p ++ [i]) 0 steps ++ [.ok (.closed (p ++ [i]))])
  | .fail f => [.error f]

def stepsCourse (p : Place) (i : Nat) : List Step → List (Attempt Moment)
  | [] => []
  | s :: rest => s.course p i ++ stepsCourse p (i + 1) rest

end

/-- What a script would go through. It is run as one batch. -/
def course (script : Script) : List (Attempt Moment) := stepsCourse [] 0 [.batch script]

mutual

def Step.dispatches : Step → List Action
  | .dispatch a => [a]
  | .batch steps => stepsDispatches steps
  | .fail _ => []

def stepsDispatches : List Step → List Action
  | [] => []
  | s :: rest => s.dispatches ++ stepsDispatches rest

end

/-- The dispatches of a script, in its order. -/
def dispatches (script : Script) : List Action := stepsDispatches script

/-- The moments before the first failure. -/
def reached : List (Attempt Moment) → List Moment
  | [] => []
  | .ok m :: rest => m :: reached rest
  | .error _ :: _ => []

/-- The first failure, if there is one. -/
def verdict (c : List (Attempt Moment)) : Attempt Unit := Attempt.inOrder (c.map Attempt.void)

/-- The moments before the first failure, and the closing of the batches that are open there. -/
def settled (c : List (Attempt Moment)) : List Moment :=
  reached c ++ (openAfter (reached c)).map .closed

/-- The moments of a run. -/
def moments (script : Script) : List Moment := settled script.course

/-! ## Courses -/

/-- The course of a batch, and what comes after it. -/
def batched (q : Place) (inner rest : List (Attempt Moment)) : List (Attempt Moment) :=
  .ok (.opened q) :: (inner ++ .ok (.closed q) :: rest)

/-- The dispatches of a course, past its failures. -/
def dispatchesOf (c : List (Attempt Moment)) : List Action :=
  c.filterMap fun m => m.toOption.bind Moment.did?

theorem induction {motive : List Step → Prop} (nil : motive [])
    (dispatch : ∀ a rest, motive rest → motive (.dispatch a :: rest))
    (batch : ∀ steps rest, motive steps → motive rest → motive (.batch steps :: rest))
    (fail : ∀ f rest, motive rest → motive (.fail f :: rest)) : ∀ steps, motive steps
  | [] => nil
  | .dispatch a :: rest => dispatch a rest (induction nil dispatch batch fail rest)
  | .batch steps :: rest =>
    batch steps rest (induction nil dispatch batch fail steps)
      (induction nil dispatch batch fail rest)
  | .fail f :: rest => fail f rest (induction nil dispatch batch fail rest)
termination_by steps => sizeOf steps

@[simp] theorem stepsCourse_nil (p : Place) (i : Nat) : stepsCourse p i [] = [] := by
  rw [stepsCourse]

theorem stepsCourse_dispatch (p : Place) (i : Nat) (a : Action) (rest : List Step) :
    stepsCourse p i (.dispatch a :: rest) = .ok (.did p a) :: stepsCourse p (i + 1) rest := by
  rw [stepsCourse, Step.course]
  rfl

theorem stepsCourse_batch (p : Place) (i : Nat) (steps rest : List Step) :
    stepsCourse p i (.batch steps :: rest) =
      batched (p ++ [i]) (stepsCourse (p ++ [i]) 0 steps) (stepsCourse p (i + 1) rest) := by
  rw [stepsCourse, Step.course, List.cons_append, List.append_assoc]
  rfl

theorem stepsCourse_fail (p : Place) (i : Nat) (f : Failure) (rest : List Step) :
    stepsCourse p i (.fail f :: rest) = .error f :: stepsCourse p (i + 1) rest := by
  rw [stepsCourse, Step.course]
  rfl

section

variable {c c' : List (Attempt Moment)}

theorem reached_append_of_ok (passes : verdict c = .ok ()) :
    reached (c ++ c') = reached c ++ reached c' := by
  induction c with
  | nil => rfl
  | cons m c ih =>
      cases m with
      | ok m => exact congrArg (m :: ·) (ih passes)
      | error f => cases passes

theorem verdict_append_of_ok (passes : verdict c = .ok ()) :
    verdict (c ++ c') = verdict c' := by
  induction c with
  | nil => rfl
  | cons m c ih =>
      cases m with
      | ok m => exact ih passes
      | error f => cases passes

theorem reached_append_of_error {f : Failure} (fails : verdict c = .error f) :
    reached (c ++ c') = reached c := by
  induction c with
  | nil => cases fails
  | cons m c ih =>
      cases m with
      | ok m => exact congrArg (m :: ·) (ih fails)
      | error f => rfl

theorem verdict_append_of_error {f : Failure} (fails : verdict c = .error f) :
    verdict (c ++ c') = .error f := by
  induction c with
  | nil => cases fails
  | cons m c ih =>
      cases m with
      | ok m => exact ih fails
      | error f => exact fails

end

theorem reached_map_ok (ms : List Moment) (rest : List (Attempt Moment)) :
    reached (ms.map .ok ++ rest) = ms ++ reached rest ∧
      verdict (ms.map .ok ++ rest) = verdict rest := by
  induction ms with
  | nil => exact ⟨rfl, rfl⟩
  | cons m ms ih => exact ⟨congrArg (m :: ·) ih.1, ih.2⟩

/-! ## Below a place -/

/-- A place in the batch at `p`, in one of its steps from the `i`-th on. -/
def Below (p : Place) (i : Nat) (q : Place) : Prop := ∃ j, i ≤ j ∧ p ++ [j] <+: q

namespace Below

variable {p q : Place} {i j : Nat}

theorem self : Below p i (p ++ [i]) := ⟨i, Nat.le_refl i, List.prefix_refl _⟩

theorem mono (le : j ≤ i) (h : Below p i q) : Below p j q := by
  obtain ⟨k, hk, step⟩ := h
  exact ⟨k, le.trans hk, step⟩

theorem within (h : Below p i q) : p <+: q := by
  obtain ⟨j, -, step⟩ := h
  exact (List.prefix_append p [j]).trans step

theorem extend {r : Place} (h : Below p i q) (further : q <+: r) : Below p i r := by
  obtain ⟨j, hj, step⟩ := h
  exact ⟨j, hj, step.trans further⟩

theorem not_above (h : Below p i q) : ¬q <+: p := by
  obtain ⟨j, -, step⟩ := h
  intro back
  have longer := (step.trans back).length_le
  rw [List.length_append, List.length_singleton] at longer
  omega

/-- Nothing is in two steps of a batch. -/
theorem apart (h : Below p (i + 1) q) : ¬p ++ [i] <+: q := by
  obtain ⟨j, hj, rest, rfl⟩ := h
  rintro ⟨rest', same⟩
  rw [List.append_assoc, List.append_assoc, List.append_cancel_left_eq] at same
  have : i = j := (List.cons.inj same).1
  omega

end Below

/-! ## Nesting -/

/-- Moments of the batch at `p`, of its steps from the `i`-th on, in which whatever is opened is
closed again. -/
inductive Nested : Place → Nat → List Moment → Prop where
  | done {p i} : Nested p i []
  | did {p i a rest} : Nested p (i + 1) rest → Nested p i (.did p a :: rest)
  | batch {p i own rest} : Nested (p ++ [i]) 0 own → Nested p (i + 1) rest →
      Nested p i (.opened (p ++ [i]) :: (own ++ .closed (p ++ [i]) :: rest))

/-- A batch in a list of moments: its opening, what happens in it, its closing. -/
structure Around (q : Place) (ms before own after : List Moment) : Prop where
  whole : ms = before ++ .opened q :: (own ++ .closed q :: after)
  /-- What happens in between happens in the batch, and the batch is not opened or closed there. -/
  inside : ∀ m ∈ own, q <+: m.place ∧ m ≠ .opened q ∧ m ≠ .closed q
  /-- Nothing that happens in the batch is left outside. -/
  outside : ∀ m ∈ before ++ after, ¬q <+: m.place

namespace Around

variable {q : Place} {ms before own after : List Moment}

theorem prepend (front : List Moment) (around : Around q ms before own after)
    (apart : ∀ m ∈ front, ¬q <+: m.place) : Around q (front ++ ms) (front ++ before) own after where
  whole := by rw [around.whole, List.append_assoc]
  inside := around.inside
  outside := by
    intro m hm
    rw [List.append_assoc] at hm
    rcases List.mem_append.1 hm with hm | hm
    · exact apart m hm
    · exact around.outside m hm

theorem append (back : List Moment) (around : Around q ms before own after)
    (apart : ∀ m ∈ back, ¬q <+: m.place) : Around q (ms ++ back) before own (after ++ back) where
  whole := by
    rw [around.whole]
    simp only [List.cons_append, List.append_assoc]
  inside := around.inside
  outside := by
    intro m hm
    rw [← List.append_assoc] at hm
    rcases List.mem_append.1 hm with hm | hm
    · exact around.outside m hm
    · exact apart m hm

end Around

namespace Nested

variable {p q : Place} {i : Nat} {ms own rest : List Moment}

theorem at_or_below (h : Nested p i ms) : ∀ m ∈ ms, (∃ a, m = .did p a) ∨ Below p i m.place := by
  induction h with
  | done => exact nofun
  | @did p i a rest _ ih =>
      intro m hm
      rcases List.mem_cons.1 hm with rfl | later
      · exact .inl ⟨a, rfl⟩
      · exact (ih m later).imp_right (Below.mono (Nat.le_succ i))
  | @batch p i own rest _ _ ihOwn ihRest =>
      intro m hm
      simp only [List.mem_cons, List.mem_append] at hm
      rcases hm with rfl | inside | rfl | later
      · exact .inr Below.self
      · refine .inr ?_
        rcases ihOwn m inside with ⟨a, rfl⟩ | below
        · exact Below.self
        · exact Below.self.extend below.within
      · exact .inr Below.self
      · exact (ihRest m later).imp_right (Below.mono (Nat.le_succ i))

theorem below_of_mem (h : Nested p i ms) (hq : .opened q ∈ ms ∨ .closed q ∈ ms) :
    Below p i q := by
  rcases hq with hq | hq
  · exact (h.at_or_below _ hq).resolve_left nofun
  · exact (h.at_or_below _ hq).resolve_left nofun

theorem within (h : Nested p i ms) : ∀ m ∈ ms, p <+: m.place := by
  intro m hm
  rcases h.at_or_below m hm with ⟨a, rfl⟩ | below
  · exact List.prefix_refl p
  · exact below.within

/-- The moments after a step are not in the step. -/
theorem apart (h : Nested p (i + 1) rest) : ∀ m ∈ rest, ¬p ++ [i] <+: m.place := by
  intro m hm
  rcases h.at_or_below m hm with ⟨a, rfl⟩ | below
  · exact Below.self.not_above
  · exact below.apart

theorem bracketed (h : Nested p i ms) : Bracketed Moment.isOpened Moment.isClosed ms := by
  induction h with
  | done => exact .nil
  | did _ ih => exact (Bracketed.single rfl rfl).append ih
  | @batch p i own rest _ _ ihOwn ihRest =>
      have wrapped : Bracketed Moment.isOpened Moment.isClosed
          (.opened (p ++ [i]) :: (own ++ [.closed (p ++ [i])])) :=
        .wrap ⟨rfl, rfl⟩ ⟨rfl, rfl⟩ ihOwn
      have joined := wrapped.append ihRest
      rwa [List.cons_append, List.append_assoc] at joined

/-- No batch is closed twice. -/
theorem nodup_closed (h : Nested p i ms) : (ms.filterMap Moment.closed?).Nodup := by
  induction h with
  | done => exact List.nodup_nil
  | did _ ih => exact ih
  | @batch p i own rest hOwn hRest ihOwn ihRest =>
      have closedIn : ∀ {l : List Moment} {q : Place}, q ∈ l.filterMap Moment.closed? →
          .closed q ∈ l := by
        intro l q hq
        obtain ⟨m, hm, hc⟩ := List.mem_filterMap.1 hq
        cases m with
        | closed p =>
            cases hc
            exact hm
        | opened p => cases hc
        | did p a => cases hc
      show ((own ++ .closed (p ++ [i]) :: rest).filterMap Moment.closed?).Nodup
      rw [List.filterMap_append, List.nodup_append]
      refine ⟨ihOwn, List.nodup_cons.2 ⟨?_, ihRest⟩, ?_⟩
      · intro again
        exact hRest.apart _ (closedIn again) (List.prefix_refl _)
      · rintro q inOwn _ later rfl
        have below := hOwn.below_of_mem (.inr (closedIn inOwn))
        rcases List.mem_cons.1 later with rfl | later
        · exact below.not_above (List.prefix_refl _)
        · exact hRest.apart _ (closedIn later) below.within

theorem around_first (hOwn : Nested (p ++ [i]) 0 own) (hRest : Nested p (i + 1) rest) :
    Around (p ++ [i]) (.opened (p ++ [i]) :: (own ++ .closed (p ++ [i]) :: rest)) [] own rest where
  whole := rfl
  inside := by
    intro m hm
    refine ⟨hOwn.within m hm, ?_, ?_⟩
    · rintro rfl
      exact (hOwn.below_of_mem (.inl hm)).not_above (List.prefix_refl _)
    · rintro rfl
      exact (hOwn.below_of_mem (.inr hm)).not_above (List.prefix_refl _)
  outside := hRest.apart

theorem mem_batch_cases {r : Place}
    (hq : .opened q ∈ Moment.opened r :: (own ++ .closed r :: rest) ∨
      .closed q ∈ Moment.opened r :: (own ++ .closed r :: rest)) :
    q = r ∨ (.opened q ∈ own ∨ .closed q ∈ own) ∨ (.opened q ∈ rest ∨ .closed q ∈ rest) := by
  simp only [List.mem_cons, List.mem_append, Moment.opened.injEq, Moment.closed.injEq,
    reduceCtorEq, false_or] at hq
  rcases hq with (same | inOwn | later) | inOwn | same | later
  · exact .inl same
  · exact .inr (.inl (.inl inOwn))
  · exact .inr (.inr (.inl later))
  · exact .inr (.inl (.inr inOwn))
  · exact .inl same
  · exact .inr (.inr (.inr later))

/-- Whatever is opened or closed has its opening and its closing, around what happens in it. -/
theorem matched (h : Nested p i ms) (hq : .opened q ∈ ms ∨ .closed q ∈ ms) :
    ∃ before own after, Around q ms before own after := by
  induction h with
  | done => rcases hq with hq | hq <;> cases hq
  | @did p i a rest hRest ih =>
      have later : .opened q ∈ rest ∨ .closed q ∈ rest := by simpa using hq
      obtain ⟨before, own, after, around⟩ := ih later
      refine ⟨_, own, after, around.prepend [.did p a] ?_⟩
      intro m hm
      rw [List.mem_singleton.1 hm]
      exact (hRest.below_of_mem later).not_above
  | @batch p i own rest hOwn hRest ihOwn ihRest =>
      rcases mem_batch_cases hq with rfl | inOwn | later
      · exact ⟨[], own, rest, around_first hOwn hRest⟩
      · obtain ⟨before, mid, after, around⟩ := ihOwn inOwn
        have below := hOwn.below_of_mem inOwn
        have closing : ∀ m ∈ Moment.closed (p ++ [i]) :: rest, ¬q <+: m.place := by
          intro m hm
          rcases List.mem_cons.1 hm with rfl | hm
          · exact below.not_above
          · exact fun inside => hRest.apart m hm (below.within.trans inside)
        refine ⟨_, mid, _, (around.append _ closing).prepend [.opened (p ++ [i])] ?_⟩
        intro m hm
        rw [List.mem_singleton.1 hm]
        exact below.not_above
      · obtain ⟨before, mid, after, around⟩ := ihRest later
        have below := hRest.below_of_mem later
        have apart : ∀ m : Moment, p ++ [i] <+: m.place → ¬q <+: m.place :=
          fun m first inside => (below.extend inside).apart first
        refine ⟨_, mid, after, ((around.prepend [.closed (p ++ [i])] ?_).prepend own ?_).prepend
          [.opened (p ++ [i])] ?_⟩
        · intro m hm
          rw [List.mem_singleton.1 hm]
          exact apart _ (List.prefix_refl _)
        · exact fun m hm => apart m (hOwn.within m hm)
        · intro m hm
          rw [List.mem_singleton.1 hm]
          exact apart _ (List.prefix_refl _)

end Nested

/-! ## Runs -/

theorem run_batch (t : Task Unit Action Unit) :
    (batch record t).run () =
      ⟨(), .startBatch :: ((t.run ()).events ++ [.endBatch]), (t.run ()).result⟩ := by
  have closed : (t.run ()).result.bind (fun a => (.ok () : Attempt Unit).map fun _ => a) =
      (t.run ()).result := by
    cases (t.run ()).result <;> rfl
  unfold batch record
  rw [Task.run_bind, Task.run_emit]
  simp only [Task.run_thenAlways, Task.run_emit, closed]
  rfl

/-- A run of steps has gone through their course up to the first failure. -/
structure Settles (p : Place) (i : Nat) (c : List (Attempt Moment)) (o : Outcome Unit Action Unit) :
    Prop where
  events : o.events = (settled c).map Moment.action
  result : o.result = verdict c
  nested : Nested p i (settled c)
  /-- The steps close only what they have opened. -/
  above : ∀ stack, (reached c).foldl Moment.leaveOpen stack = openAfter (reached c) ++ stack
  /-- Without a failure they close all of it. -/
  whole : verdict c = .ok () → openAfter (reached c) = []

namespace Settles

variable {p : Place} {i : Nat} {inner c : List (Attempt Moment)} {o o' : Outcome Unit Action Unit}

theorem settled_eq (h : Settles p i c o) (passes : verdict c = .ok ()) : settled c = reached c := by
  rw [settled, h.whole passes, List.map_nil, List.append_nil]

/-- A batch without a failure is closed before the next step. -/
theorem batch_ok (own : Settles (p ++ [i]) 0 inner o) (passes : verdict inner = .ok ())
    (rest : Settles p (i + 1) c o') :
    Settles p i (batched (p ++ [i]) inner c)
      ⟨(), .startBatch :: (o.events ++ [.endBatch]) ++ o'.events, o'.result⟩ := by
  have reached_eq : reached (batched (p ++ [i]) inner c) =
      .opened (p ++ [i]) :: (reached inner ++ .closed (p ++ [i]) :: reached c) :=
    congrArg (_ :: ·) (reached_append_of_ok passes)
  have verdict_eq : verdict (batched (p ++ [i]) inner c) = verdict c :=
    verdict_append_of_ok passes
  have above_eq : ∀ stack, (reached (batched (p ++ [i]) inner c)).foldl Moment.leaveOpen stack =
      (reached c).foldl Moment.leaveOpen stack := by
    intro stack
    rw [reached_eq, List.foldl_cons, List.foldl_append, own.above, own.whole passes]
    rfl
  have open_eq : openAfter (reached (batched (p ++ [i]) inner c)) = openAfter (reached c) :=
    above_eq []
  have settled_eq : settled (batched (p ++ [i]) inner c) =
      .opened (p ++ [i]) :: (settled inner ++ .closed (p ++ [i]) :: settled c) := by
    rw [own.settled_eq passes, settled, open_eq, reached_eq, settled]
    simp only [List.cons_append, List.append_assoc]
  refine ⟨?_, ?_, ?_, ?_, ?_⟩
  · rw [settled_eq, own.events, rest.events]
    simp only [List.map_cons, List.map_append, List.cons_append, List.append_assoc,
      List.nil_append]
    rfl
  · rw [verdict_eq]
    exact rest.result
  · rw [settled_eq]
    exact .batch own.nested rest.nested
  · intro stack
    rw [above_eq, open_eq]
    exact rest.above stack
  · intro h
    rw [open_eq]
    exact rest.whole (verdict_eq ▸ h)

/-- A batch with a failure is closed, and its failure ends the steps after it. -/
theorem batch_error {f : Failure} (own : Settles (p ++ [i]) 0 inner o)
    (fails : verdict inner = .error f) :
    Settles p i (batched (p ++ [i]) inner c)
      ⟨(), .startBatch :: (o.events ++ [.endBatch]), .error f⟩ := by
  have reached_eq : reached (batched (p ++ [i]) inner c) = .opened (p ++ [i]) :: reached inner :=
    congrArg (_ :: ·) (reached_append_of_error fails)
  have verdict_eq : verdict (batched (p ++ [i]) inner c) = .error f :=
    verdict_append_of_error fails
  have above_eq : ∀ stack, (reached (batched (p ++ [i]) inner c)).foldl Moment.leaveOpen stack =
      openAfter (reached inner) ++ (p ++ [i]) :: stack := by
    intro stack
    rw [reached_eq, List.foldl_cons]
    exact own.above ((p ++ [i]) :: stack)
  have open_eq : openAfter (reached (batched (p ++ [i]) inner c)) =
      openAfter (reached inner) ++ [p ++ [i]] :=
    above_eq []
  have settled_eq : settled (batched (p ++ [i]) inner c) =
      .opened (p ++ [i]) :: (settled inner ++ [.closed (p ++ [i])]) := by
    rw [settled, open_eq, reached_eq, settled]
    simp only [List.cons_append, List.append_assoc, List.map_append, List.map_cons, List.map_nil]
  refine ⟨?_, verdict_eq.symm, ?_, ?_, ?_⟩
  · rw [settled_eq, own.events]
    simp only [List.map_cons, List.map_append, List.map_nil]
    rfl
  · rw [settled_eq]
    exact .batch own.nested .done
  · intro stack
    rw [above_eq, open_eq, List.append_assoc]
    rfl
  · intro h
    rw [verdict_eq] at h
    cases h

end Settles

/-- By induction on the steps, and in a batch on its own. -/
theorem settles (steps : List Step) :
    ∀ p i, Settles p i (stepsCourse p i steps) ((stepsTask steps).run ()) := by
  induction steps using Script.induction with
  | nil =>
      intro p i
      rw [stepsCourse_nil, stepsTask]
      exact ⟨rfl, rfl, .done, fun _ => rfl, fun _ => rfl⟩
  | dispatch a rest ih =>
      intro p i
      have later := ih p (i + 1)
      rw [stepsCourse_dispatch, stepsTask, Step.task, record, Task.run_bind, Task.run_emit]
      refine ⟨?_, later.result, .did later.nested, later.above, later.whole⟩
      show a :: ((stepsTask rest).run ()).events = _
      rw [later.events]
      rfl
  | batch steps rest ihSteps ihRest =>
      intro p i
      have own := ihSteps (p ++ [i]) 0
      have later := ihRest p (i + 1)
      rw [stepsCourse_batch, stepsTask, Step.task, Task.run_bind, run_batch]
      cases passes : verdict (stepsCourse (p ++ [i]) 0 steps) with
      | ok u =>
          rw [own.result, passes]
          exact own.batch_ok passes later
      | error f =>
          rw [own.result, passes]
          exact own.batch_error passes
  | fail f rest _ =>
      intro p i
      rw [stepsCourse_fail, stepsTask, Step.task, Task.run_bind, Task.run_fail]
      exact ⟨rfl, rfl, .done, fun _ => rfl, nofun⟩

theorem settles_run (script : Script) :
    Settles [] 0 script.course ((batch record (stepsTask script)).run ()) := by
  have whole := settles [.batch script] [] 0
  have alone : stepsTask [.batch script] = batch record (stepsTask script) := by
    rw [stepsTask, stepsTask, Step.task]
    exact bind_pure_unit
  rwa [alone] at whole

/-! ## Dispatches -/

theorem dispatchesOf_append (c c' : List (Attempt Moment)) :
    dispatchesOf (c ++ c') = dispatchesOf c ++ dispatchesOf c' :=
  List.filterMap_append

theorem dispatchesOf_map_ok (ms : List Moment) :
    dispatchesOf (ms.map .ok) = ms.filterMap Moment.did? := by
  rw [dispatchesOf, List.filterMap_map]
  rfl

theorem dispatchesOf_stepsCourse (steps : List Step) :
    ∀ p i, dispatchesOf (stepsCourse p i steps) = stepsDispatches steps := by
  induction steps using Script.induction with
  | nil =>
      intro p i
      rw [stepsCourse_nil, stepsDispatches]
      rfl
  | dispatch a rest ih =>
      intro p i
      rw [stepsCourse_dispatch, stepsDispatches, Step.dispatches, ← ih p (i + 1)]
      rfl
  | batch steps rest ihSteps ihRest =>
      intro p i
      rw [stepsCourse_batch, stepsDispatches, Step.dispatches, ← ihSteps (p ++ [i]) 0,
        ← ihRest p (i + 1)]
      exact dispatchesOf_append _ (.ok (.closed (p ++ [i])) :: _)
  | fail f rest ih =>
      intro p i
      rw [stepsCourse_fail, stepsDispatches, Step.dispatches, ← ih p (i + 1)]
      rfl

theorem dispatchesOf_course (script : Script) : dispatchesOf script.course = script.dispatches := by
  rw [course, dispatchesOf_stepsCourse, stepsDispatches, Step.dispatches, stepsDispatches,
    List.append_nil, dispatches]

/-- What is dispatched before the first failure is dispatched in the order of the course. -/
theorem dispatched_reached (c : List (Attempt Moment)) :
    (reached c).filterMap Moment.did? <+: dispatchesOf c := by
  induction c with
  | nil => exact List.prefix_refl _
  | cons m c ih =>
      cases m with
      | error f => exact List.nil_prefix
      | ok m =>
          cases m with
          | did p a => exact List.cons_prefix_cons.2 ⟨rfl, ih⟩
          | opened p => exact ih
          | closed p => exact ih

/-- Closing what is open dispatches nothing of the script. -/
theorem dispatched_settled (c : List (Attempt Moment)) :
    (settled c).filterMap Moment.did? = (reached c).filterMap Moment.did? := by
  have closings : ∀ open_ : List Place, (open_.map Moment.closed).filterMap Moment.did? = [] := by
    intro open_
    rw [List.filterMap_map, List.filterMap_eq_nil_iff]
    exact fun _ _ => rfl
  rw [settled, List.filterMap_append, closings, List.append_nil]

theorem dispatched_moments (script : Script) :
    script.moments.filterMap Moment.did? <+: script.dispatches := by
  rw [moments, dispatched_settled, ← dispatchesOf_course]
  exact dispatched_reached script.course

/-! ## Actions -/

theorem isStart_action {m : Moment} (h : ∀ a, m.did? = some a → a.isPlain) :
    m.action.isStart = m.isOpened := by
  cases m with
  | opened p => rfl
  | closed p => rfl
  | did p a =>
      have plain := h a rfl
      cases a with
      | startBatch => cases plain
      | _ => rfl

theorem isEnd_action {m : Moment} (h : ∀ a, m.did? = some a → a.isPlain) :
    m.action.isEnd = m.isClosed := by
  cases m with
  | opened p => rfl
  | closed p => rfl
  | did p a =>
      have plain := h a rfl
      cases a with
      | endBatch => cases plain
      | _ => rfl

theorem filter_actions {ms : List Moment} (h : ∀ a ∈ ms.filterMap Moment.did?, a.isPlain) :
    (ms.map Moment.action).filter Action.isPlain = ms.filterMap Moment.did? := by
  induction ms with
  | nil => rfl
  | cons m ms ih =>
      cases m with
      | opened p => exact ih h
      | closed p => exact ih h
      | did p a =>
          have plain : a.isPlain := h a List.mem_cons_self
          have rest := ih fun a' ha' => h a' (List.mem_cons_of_mem a ha')
          show (a :: ms.map Moment.action).filter Action.isPlain = a :: ms.filterMap Moment.did?
          rw [List.filter_cons_of_pos plain, rest]

/-- Moments that end with closings have the batches that were still open closed there. -/
theorem open_of_nested {before : List Moment} {still : List Place}
    (h : Nested [] 0 (before ++ still.map .closed)) :
    still.Nodup ∧ ∀ q, q ∈ still ↔ .opened q ∈ before ∧ .closed q ∉ before := by
  have closings : (still.map Moment.closed).filterMap Moment.closed? = still := by
    rw [List.filterMap_map]
    exact List.filterMap_some
  have once := h.nodup_closed
  rw [List.filterMap_append, closings, List.nodup_append] at once
  obtain ⟨-, nodup, apart⟩ := once
  have closedLater : ∀ {q}, .closed q ∈ still.map Moment.closed ↔ q ∈ still := by
    intro q
    rw [List.mem_map]
    constructor
    · rintro ⟨q', hq', same⟩
      cases same
      exact hq'
    · exact fun hq => ⟨q, hq, rfl⟩
  refine ⟨nodup, fun q => ⟨fun hq => ⟨?_, fun closed => ?_⟩, ?_⟩⟩
  · obtain ⟨first, own, last, around⟩ :=
      h.matched (.inr (List.mem_append_right _ (closedLater.2 hq)))
    have opened : .opened q ∈ before ++ still.map Moment.closed := by
      rw [around.whole]
      exact List.mem_append_right _ List.mem_cons_self
    refine (List.mem_append.1 opened).resolve_right fun later => ?_
    obtain ⟨_, -, other⟩ := List.mem_map.1 later
    cases other
  · exact apart q (List.mem_filterMap.2 ⟨_, closed, rfl⟩) q hq rfl
  · rintro ⟨opened, notClosed⟩
    obtain ⟨first, own, last, around⟩ := h.matched (.inl (List.mem_append_left _ opened))
    have closed : .closed q ∈ before ++ still.map Moment.closed := by
      rw [around.whole]
      simp
    exact closedLater.1 ((List.mem_append.1 closed).resolve_left notClosed)

/-! ## Runs of scripts -/

/-- What a script leaves behind. -/
structure WellBracketed (script : Script) : Prop where
  /-- The actions of the run are those of its moments. -/
  recorded : (run script).1 = script.moments.map Moment.action
  /-- No beginning of the run has closed more batches than it has opened, and the whole run has
  closed as many. -/
  bracketed : Bracketed Moment.isOpened Moment.isClosed script.moments
  /-- Every batch is opened once and closed once, around what happens in it and nothing else. -/
  matched : ∀ q, .opened q ∈ script.moments ∨ .closed q ∈ script.moments →
    ∃ before own after, Around q script.moments before own after
  /-- The script's own dispatches in the run are the first ones of the script. -/
  dispatched : script.moments.filterMap Moment.did? <+: script.dispatches
  /-- If the script itself dispatches no starts and ends, all this can be seen from the actions. -/
  plain : (∀ a ∈ script.dispatches, a.isPlain) →
    Bracketed Action.isStart Action.isEnd (run script).1 ∧
      (run script).1.filter Action.isPlain = script.moments.filterMap Moment.did?
  /-- Without a failure the run is the whole script, with each of its dispatches. -/
  completes : ∀ ms, script.course = ms.map .ok →
    script.moments = ms ∧ ms.filterMap Moment.did? = script.dispatches ∧ (run script).2 = .ok ()
  /-- With a failure the run is the script before it, and an end for every open batch. -/
  fails : ∀ before f after, script.course = before.map .ok ++ .error f :: after →
    (run script).1 =
        before.map Moment.action ++ List.replicate (openAfter before).length .endBatch ∧
      (run script).2 = .error f ∧ (openAfter before).Nodup ∧
      ∀ q, q ∈ openAfter before ↔ .opened q ∈ before ∧ .closed q ∉ before

/-- **Batches are well bracketed.** However batches are nested in a script and wherever it fails,
no start is left without its end, every batch encloses exactly its own actions, and nothing is
dispatched after a failure but the ends of the open batches; the result is that failure. -/
theorem well_bracketed (script : Script) : WellBracketed script := by
  have run_ := settles_run script
  have whole : (run script).1 = script.moments.map Moment.action := run_.events
  have bracketed := run_.nested.bracketed
  have dispatched := dispatched_moments script
  refine ⟨whole, bracketed, fun q hq => run_.nested.matched hq, dispatched, ?_, ?_, ?_⟩
  · intro plain
    have own : ∀ a ∈ script.moments.filterMap Moment.did?, a.isPlain :=
      fun a ha => plain a (dispatched.subset ha)
    have each : ∀ m ∈ script.moments, ∀ a, m.did? = some a → a.isPlain :=
      fun m hm a ha => own a (List.mem_filterMap.2 ⟨m, hm, ha⟩)
    rw [whole]
    exact ⟨bracketed.map (fun m hm => isStart_action (each m hm))
      (fun m hm => isEnd_action (each m hm)), filter_actions own⟩
  · intro ms all
    have passes : reached script.course = ms ∧ verdict script.course = .ok () := by
      have ends := reached_map_ok ms []
      rwa [List.append_nil, ← all, reached, List.append_nil] at ends
    have moments_eq : script.moments = ms := (run_.settled_eq passes.2).trans passes.1
    refine ⟨moments_eq, ?_, run_.result.trans passes.2⟩
    rw [← dispatchesOf_map_ok, ← all, dispatchesOf_course]
  · intro before f after stops
    obtain ⟨reached_eq, verdict_eq⟩ := reached_map_ok before (.error f :: after)
    rw [← stops, reached, List.append_nil] at reached_eq
    rw [← stops] at verdict_eq
    have moments_eq : script.moments = before ++ (openAfter before).map .closed := by
      rw [moments, settled, reached_eq]
    refine ⟨?_, run_.result.trans verdict_eq, open_of_nested ?_⟩
    · rw [whole, moments_eq, List.map_append, List.map_map, ← List.map_const]
      rfl
    · rw [← moments_eq]
      exact run_.nested

example (a b : Action) (f : Failure) :
    run [.dispatch a, .batch [.dispatch b, .fail f, .dispatch a], .dispatch b] =
      ([.startBatch, a, .startBatch, b, .endBatch, .endBatch], .error f) := rfl

/-- The actions alone need not be bracketed: a script can dispatch an end by itself. -/
theorem stray_end_unbalances :
    ¬ ∀ script, Bracketed Action.isStart Action.isEnd (run script).1 := by
  intro h
  have balanced := (h [.dispatch .endBatch]).equal
  have recorded : (run [.dispatch .endBatch]).1 = [.startBatch, .endBatch, .endBatch] := rfl
  rw [recorded] at balanced
  exact absurd balanced (by decide)

end Script

end ChartBinding
