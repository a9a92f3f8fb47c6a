import ChartBinding.Proofs.Course

/-!
# A binding is a single batch

Whatever a binding comes to, its actions are one batch: the start, the link of a mark that nothing
drives yet, the actions of the stages that ran, and the end. The end is dispatched on every path. A
binding that cannot open its sketch is the exception, for it does nothing at all.

The result is the first failure that was met, as it was met. So the collaborators are called in a
fixed order, and none is called after a failure: the compiler before the stages, the stages in their
order.
-/

namespace ChartBinding

/-! ## Balanced actions -/

namespace Action

/-- The number of open batches after an action, with `n` of them before; nothing if an end has no
start. -/
def nesting (n : Nat) : Action → Option Nat
  | .startBatch => some (n + 1)
  | .endBatch => if n = 0 then none else some (n - 1)
  | _ => some n

def depth? (n : Nat) (as : List Action) : Option Nat := as.foldlM nesting n

/-- Every start has its end, and every end its start. -/
def Balanced (as : List Action) : Prop := depth? 0 as = some 0

theorem depth?_append (n : Nat) (as bs : List Action) :
    depth? n (as ++ bs) = (depth? n as).bind fun m => depth? m bs :=
  List.foldlM_append

theorem depth?_cons (n : Nat) (a : Action) (as : List Action) :
    depth? n (a :: as) = (nesting n a).bind fun m => depth? m as :=
  List.foldlM_cons

theorem nesting_add {n m : Nat} {a : Action} (k : Nat) (h : nesting n a = some m) :
    nesting (n + k) a = some (m + k) := by
  cases a with
  | startBatch =>
      cases h
      exact congrArg some (Nat.add_right_comm n k 1)
  | endBatch =>
      -- The only action that can be refused: here the batch it ends is one of the inner ones.
      by_cases hn : n = 0
      · simp [nesting, hn] at h
      · simp only [nesting, if_neg hn, Option.some.injEq] at h
        subst h
        have open_ : n + k ≠ 0 := by omega
        simp only [nesting, if_neg open_, Option.some.injEq]
        omega
  | updateMark _ _ _ =>
      cases h
      rfl
  | resetVisual _ _ =>
      cases h
      rfl
  | custom _ _ =>
      cases h
      rfl

/-- Batches that are open before stay open. -/
theorem depth?_add (as : List Action) :
    ∀ {n m : Nat} (k : Nat), depth? n as = some m → depth? (n + k) as = some (m + k) := by
  induction as with
  | nil =>
      intro n m k h
      cases h
      rfl
  | cons a as ih =>
      intro n m k h
      rw [depth?_cons] at h ⊢
      obtain ⟨n', first, rest⟩ := Option.bind_eq_some_iff.1 h
      rw [nesting_add k first]
      exact ih k rest

theorem Balanced.append {as bs : List Action} (ha : Balanced as) (hb : Balanced bs) :
    Balanced (as ++ bs) := by
  unfold Balanced at ha hb ⊢
  rw [depth?_append, ha]
  exact hb

theorem Balanced.batch {as : List Action} (h : Balanced as) :
    Balanced (.startBatch :: (as ++ [.endBatch])) := by
  have inner : depth? 1 as = some 1 := depth?_add as 1 h
  show depth? 1 (as ++ [.endBatch]) = some 0
  rw [depth?_append, inner]
  rfl

theorem Balanced.flatMap {α : Type} {f : α → List Action} {l : List α}
    (h : ∀ a ∈ l, Balanced (f a)) : Balanced (l.flatMap f) := by
  induction l with
  | nil => rfl
  | cons a l ih =>
      rw [List.flatMap_cons]
      exact (h a List.mem_cons_self).append (ih fun a' ha' => h a' (List.mem_cons_of_mem a ha'))

end Action

/-! ## What may be opened -/

namespace Binder

variable {σ ω : Type}

/-- A binding can be opened if its mark is there, and has a sketch or a type with a shape. -/
theorem opening_isOk_iff (b : Binder σ ω) (r : Binding) (w : Workspace σ ω) (mark : SceneMark) :
    (∃ s, b.opening r w = .ok (mark, s)) ↔
      b.host.mark? w.world r.mark = some mark ∧
        (w.book.sketch? r.mark ≠ none ∨
          mark.type ∈ ["rect", "symbol", "text", "line", "area"]) := by
  constructor
  · rintro ⟨s, opens⟩
    obtain ⟨found, sketch⟩ := opening_eq_ok_iff.1 opens
    refine ⟨found, ?_⟩
    rcases Sketchbook.sketchFor_eq_ok_iff.1 sketch with old | ⟨-, k, known, -⟩
    · rw [old]
      exact .inl nofun
    · exact .inr (Shape.ofMarkType?_isSome_iff.1 (known ▸ rfl))
  · rintro ⟨found, h⟩
    cases old : w.book.sketch? r.mark with
    | some s =>
        exact ⟨s, opening_eq_ok_iff.2 ⟨found, Sketchbook.sketchFor_eq_ok_iff.2 (.inl old)⟩⟩
    | none =>
        have known := h.resolve_left fun ne => ne old
        obtain ⟨k, hk⟩ := Option.isSome_iff_exists.1 (Shape.ofMarkType?_isSome_iff.2 known)
        exact ⟨Sketch.ofShape k, opening_eq_ok_iff.2
          ⟨found, Sketchbook.sketchFor_eq_ok_iff.2 (.inr ⟨old, k, hk, rfl⟩)⟩⟩

/-! ## The batch -/

/-- What a binding dispatches to link its mark: nothing if something drives the mark already. -/
def linking (r : Binding) (mark : SceneMark) : List Action :=
  if mark.link = none then [.updateMark r.mark "from" (.obj [("data", Json.ofId r.dataset)])]
  else []

/-- The deeds of a binding in which `sketches` were compiled and `ps` performed. They are one batch,
whose actions are the link's and then the stages'. -/
structure IsBatch (b : Binder σ ω) (r : Binding) (mark : SceneMark)
    (o : Outcome (Workspace σ ω) BindEvent Unit) (sketches : List Sketch)
    (ps : List (Performance σ ω)) : Prop where
  deeds : Trace.deeds o.events =
    .dispatched .startBatch ::
      ((linking r mark).map .dispatched ++ sketches.map .compiled ++ ps.flatMap (b.performed r.mark)
        ++ [.dispatched .endBatch])
  actions : Trace.actions o.events =
    .startBatch :: (linking r mark ++ ps.flatMap (fun p => (b.report p).actions) ++ [.endBatch])
  balanced : (∀ p ∈ ps, Action.Balanced (b.report p).actions) →
    Action.Balanced (Trace.actions o.events)

/-- The order of a binding, and what follows from it for the result. -/
structure IsOrdered (b : Binder σ ω) (r : Binding) (mark : SceneMark) (w : Workspace σ ω)
    (o : Outcome (Workspace σ ω) BindEvent Unit) (sketches : List Sketch)
    (ps : List (Performance σ ω)) : Prop where
  once : sketches.length ≤ 1
  /-- The compiler is called if the mark may be bound and the field tells its derivation. -/
  called : sketches ≠ [] ↔
    (∃ p, mark.checkPipeline r.dataset = .ok p) ∧ ∃ d, r.field.channelDef = .ok d
  /-- Stages are performed if the compiler made a chart. -/
  accepted : ps ≠ [] ↔ ∃ s c, sketches = [s] ∧ b.compiler s = .ok c
  stages : ps.map (·.stage) <+: [.data, .scales, .marks, .guides]
  /-- The first stage finds the tools as they were, and the application with the mark linked. -/
  begins : ∀ p ∈ ps.head?,
    p.tools = w.tools ∧ p.world = b.host.after w.world (.startBatch :: linking r mark)
  /-- A stage with another after it went well, and the other is given what it left. -/
  follows : ∀ earlier p q later, ps = earlier ++ p :: q :: later →
    (b.report p).result = .ok () ∧ q = b.next p q.stage
  /-- Stages end early only by a failure. -/
  complete : ps ≠ [] → (∀ p ∈ ps, (b.report p).result = .ok ()) →
    ps.map (·.stage) = [.data, .scales, .marks, .guides]
  /-- The result is the first failure that was met, as it was met. -/
  result : o.result = Attempt.inOrder
    ([(mark.checkPipeline r.dataset).void, r.field.channelDef.void]
      ++ sketches.map (fun s => (b.compiler s).void) ++ ps.map fun p => (b.report p).result)
  ok : o.result = .ok () ↔ ps.map (·.stage) = [.data, .scales, .marks, .guides] ∧
    ∀ p ∈ ps, (b.report p).result = .ok ()

theorem linkDeeds_eq (r : Binding) (mark : SceneMark) :
    r.linkDeeds mark = (linking r mark).map .dispatched := by
  unfold Binding.linkDeeds linking
  cases mark.link with
  | none => rfl
  | some l => rfl

/-- A mark that may not be bound is driven already. -/
theorem linkDeeds_of_error {r : Binding} {mark : SceneMark} {f : Failure}
    (h : mark.checkPipeline r.dataset = .error f) : r.linkDeeds mark = [] := by
  unfold Binding.linkDeeds
  cases hl : mark.link with
  | some l => rfl
  | none =>
      unfold SceneMark.checkPipeline SceneMark.pipeline at h
      rw [hl] at h
      cases h

theorem balanced_linking (r : Binding) (mark : SceneMark) : Action.Balanced (linking r mark) := by
  unfold linking
  split
  · rfl
  · rfl

theorem Account.isBatch {b : Binder σ ω} {w : Workspace σ ω} {r : Binding} {mark : SceneMark}
    {o : Outcome (Workspace σ ω) BindEvent Unit} {book : Sketchbook} {tools : σ}
    {ds : Trace} {result : Attempt Unit} {sketches : List Sketch} {ps : List (Performance σ ω)}
    (h : b.Account w o book tools ds result)
    (batched : ds = Trace.batched
      (r.linkDeeds mark ++ sketches.map .compiled ++ ps.flatMap (b.performed r.mark))) :
    b.IsBatch r mark o sketches ps := by
  subst batched
  have deeds := h.deeds
  rw [linkDeeds_eq] at deeds
  have actions : Trace.actions o.events = .startBatch ::
      (linking r mark ++ ps.flatMap (fun p => (b.report p).actions) ++ [.endBatch]) := by
    rw [h.actions, Trace.actions_batched, Trace.actions_append, Trace.actions_append, linkDeeds_eq,
      Trace.actions_dispatched, Trace.actions_compiled, List.append_nil,
      actions_flatMap_performed]
  refine ⟨deeds, actions, ?_⟩
  intro stages
  rw [actions]
  exact ((balanced_linking r mark).append (Action.Balanced.flatMap stages)).batch

section

variable {b : Binder σ ω} {r : Binding} {mark : SceneMark} {w : Workspace σ ω}
  {o : Outcome (Workspace σ ω) BindEvent Unit} {sketches : List Sketch}

/-- A binding that failed before the stages is in order if its failure is the first. -/
theorem isOrdered_of_failure {f : Failure} (once : sketches.length ≤ 1)
    (called : sketches ≠ [] ↔
      (∃ p, mark.checkPipeline r.dataset = .ok p) ∧ ∃ d, r.field.channelDef = .ok d)
    (refused : ∀ s c, sketches = [s] → b.compiler s ≠ .ok c)
    (first : Attempt.inOrder ([(mark.checkPipeline r.dataset).void, r.field.channelDef.void]
      ++ sketches.map fun s => (b.compiler s).void) = .error f)
    (result : o.result = .error f) : b.IsOrdered r mark w o sketches [] := by
  refine ⟨once, called, ?_, List.nil_prefix, ?_, ?_, fun h => absurd rfl h, ?_, ?_⟩
  · constructor
    · intro h
      exact absurd rfl h
    · rintro ⟨s, c, hs, hc⟩
      exact absurd hc (refused s c hs)
  · intro p hp
    exact absurd hp (Option.not_mem_none p)
  · intro earlier p q later h
    exact absurd h.symm (by simp)
  · rw [List.map_nil, List.append_nil, first, result]
  · constructor
    · intro h
      rw [result] at h
      cases h
    · rintro ⟨h, -⟩
      cases h

theorem isOrdered_of_performances {s : Sketch} {p : SceneMark.Pipeline} {d : ChannelDef}
    {c : Compiled} {earlier : List (Performance σ ω)} {last : Performance σ ω}
    (check : mark.checkPipeline r.dataset = .ok p) (decode : r.field.channelDef = .ok d)
    (compiles : b.compiler s = .ok c.output)
    (performs : b.performances (b.first r w mark c) [.scales, .marks, .guides] = earlier ++ [last])
    (result : o.result = b.resultOf (earlier ++ [last])) :
    b.IsOrdered r mark w o [s] (earlier ++ [last]) := by
  rw [← performs] at result ⊢
  have complete := b.stages_performances_of_ok [.scales, .marks, .guides] (b.first r w mark c)
  obtain ⟨later, head⟩ :=
    b.performances_eq_cons (b.first r w mark c) [.scales, .marks, .guides]
  refine ⟨Nat.le_refl 1, ?_, ?_, b.stages_performances _ _, ?_, ?_, fun _ => complete, ?_, ?_⟩
  · exact ⟨fun _ => ⟨⟨p, check⟩, d, decode⟩, fun _ => List.cons_ne_nil _ _⟩
  · rw [head]
    exact ⟨fun _ => ⟨s, c.output, rfl, compiles⟩, fun _ => List.cons_ne_nil _ _⟩
  · intro q hq
    rw [head] at hq
    cases hq
    refine ⟨rfl, ?_⟩
    show b.host.after _ (Trace.actions (r.linkDeeds mark)) = _
    rw [linkDeeds_eq, Trace.actions_dispatched]
    rfl
  · intro earlier q q' later h
    exact b.next_of_performances _ _ h
  · rw [result, check, decode, List.map_singleton, compiles]
    rfl
  · have all : o.result = .ok () ↔ ∀ q ∈ b.performances (b.first r w mark c)
        [.scales, .marks, .guides], (b.report q).result = .ok () := by
      rw [result, resultOf, Attempt.inOrder_eq_ok_iff]
      exact List.forall_mem_map
    rw [all]
    exact ⟨fun h => ⟨complete h, h⟩, fun h => h.2⟩

end

theorem exists_isBatch (b : Binder σ ω) (datasets : Dataset.Cache) (r : Binding)
    (w : Workspace σ ω) {mark : SceneMark} {s : Sketch} (opens : b.opening r w = .ok (mark, s)) :
    ∃ sketches ps, b.IsBatch r mark ((b.bind datasets r).run w) sketches ps ∧
      b.IsOrdered r mark w ((b.bind datasets r).run w) sketches ps := by
  -- Each course says what was compiled and performed; the first one is excluded.
  cases b.course datasets r w with
  | unopened opens' _ =>
      rw [opens] at opens'
      cases opens'
  | rejected opens' check account =>
      rw [opens] at opens'
      cases opens'
      refine ⟨[], [], account.isBatch ?_, isOrdered_of_failure ?_ ?_ ?_ ?_ account.result⟩
      · rw [linkDeeds_of_error check]
        rfl
      · exact Nat.zero_le 1
      · simp [check]
      · intro s' c h
        cases h
      · rw [check]
        rfl
  | undecoded opens' check decode account =>
      rw [opens] at opens'
      cases opens'
      refine ⟨[], [], account.isBatch ?_, isOrdered_of_failure ?_ ?_ ?_ ?_ account.result⟩
      · rw [List.map_nil, List.append_nil, List.flatMap_nil, List.append_nil]
      · exact Nat.zero_le 1
      · simp [decode]
      · intro s' c h
        cases h
      · rw [check, decode]
        rfl
  | @uncompiled _ _ p d _ opens' check decode compiles account =>
      rw [opens] at opens'
      cases opens'
      refine ⟨[b.input datasets r s d], [], account.isBatch ?_,
        isOrdered_of_failure ?_ ?_ ?_ ?_ account.result⟩
      · rw [List.flatMap_nil, List.append_nil]
        rfl
      · exact Nat.le_refl 1
      · simp [check, decode]
      · intro s' c h
        cases h
        rw [compiles]
        exact nofun
      · rw [check, decode, List.map_singleton, compiles]
        rfl
  | extracted opens' check decode compiles performs account =>
      rw [opens] at opens'
      cases opens'
      exact ⟨_, _, account.isBatch rfl,
        isOrdered_of_performances check decode compiles performs account.result⟩

/-- **A binding is a single batch.** It does nothing if there is no mark, or neither a sketch nor a
type with a shape. Otherwise it is one batch, in order. -/
theorem bind_single_batch (b : Binder σ ω) (datasets : Dataset.Cache) (r : Binding)
    (w : Workspace σ ω) :
    ((b.host.mark? w.world r.mark = none ∨
        ∃ mark, b.host.mark? w.world r.mark = some mark ∧ w.book.sketch? r.mark = none ∧
          mark.type ∉ ["rect", "symbol", "text", "line", "area"]) →
      ∃ f, (b.bind datasets r).run w = ⟨w, [], .error f⟩) ∧
    ∀ mark, b.host.mark? w.world r.mark = some mark →
      (w.book.sketch? r.mark ≠ none ∨ mark.type ∈ ["rect", "symbol", "text", "line", "area"]) →
      ∃ sketches ps, b.IsBatch r mark ((b.bind datasets r).run w) sketches ps ∧
        b.IsOrdered r mark w ((b.bind datasets r).run w) sketches ps := by
  constructor
  · -- A binding that can be opened has a mark, and a sketch or a known type: none of the two ways.
    intro unopenable
    cases opens : b.opening r w with
    | error f => exact ⟨f, b.run_bind_of_error datasets r opens⟩
    | ok opened =>
        obtain ⟨found, known⟩ := (b.opening_isOk_iff r w opened.1).1 ⟨opened.2, opens⟩
        rcases unopenable with missing | ⟨mark, found', new, unknown⟩
        · rw [missing] at found
          cases found
        · rw [found'] at found
          cases found
          exact absurd (known.resolve_left fun old => old new) unknown
  · intro mark found known
    obtain ⟨s, opens⟩ := (b.opening_isOk_iff r w mark).2 ⟨found, known⟩
    exact b.exists_isBatch datasets r w opens

end Binder

end ChartBinding
