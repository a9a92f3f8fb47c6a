import ChartBinding.Proofs.Pipeline
import ChartBinding.Proofs.Registration
import ChartBinding.Proofs.Replay

/-!
# Marks are independent

A binder serves all marks with one book, one counter and one scene. With the registrar, a mark has
nothing of the others all the same, but for the numbers of its primitives.

The *standing* of a mark is what the scene and the book have for it, without those numbers. It is
all that matters to a call for the mark: from workspaces in which the mark stands alike, the call
comes to the same and leaves the mark standing alike (`Binder.agrees`). A call for another mark
leaves the standing (`Binder.standing_outcome`). So a session goes in step, as far as a mark is
concerned, with the session of the mark's own calls (`Binder.agrees_session`).
-/

namespace ChartBinding

/-! ## Interleavings -/

/-- A list made of two others, each in its order. -/
inductive Interleaving {α : Type} : List α → List α → List α → Prop
  | nil : Interleaving [] [] []
  | left {a : α} {as bs cs : List α} (rest : Interleaving as bs cs) :
      Interleaving (a :: as) bs (a :: cs)
  | right {b : α} {as bs cs : List α} (rest : Interleaving as bs cs) :
      Interleaving as (b :: bs) (b :: cs)

namespace Interleaving

variable {α : Type} {as bs cs : List α}

theorem swap (h : Interleaving as bs cs) : Interleaving bs as cs := by
  induction h with
  | nil => exact .nil
  | left _ ih => exact .right ih
  | right _ ih => exact .left ih

/-- One of the lists is got back, if it can be told from the other. -/
theorem filter_left (h : Interleaving as bs cs) {p : α → Bool} (own : ∀ a ∈ as, p a = true)
    (others : ∀ b ∈ bs, p b = false) : cs.filter p = as := by
  induction h with
  | nil => rfl
  | @left a _ _ _ _ ih =>
      rw [List.filter_cons_of_pos (own a List.mem_cons_self),
        ih (fun a' ha' => own a' (List.mem_cons_of_mem a ha')) others]
  | @right b _ _ _ _ ih =>
      rw [List.filter_cons_of_neg (Bool.eq_false_iff.1 (others b List.mem_cons_self)),
        ih own fun b' hb' => others b' (List.mem_cons_of_mem b hb')]

end Interleaving

/-- The mark that a call is for. -/
def Binder.Request.mark? : Request → Option MarkId
  | bind _ r => some r.mark
  | unbind m _ => some m
  | evict m => some m
  | reset => none

theorem Binder.Request.concerns_of_mark? {q : Request} {m n : MarkId} (h : q.mark? = some m) :
    q.concerns n = (m == n) := by
  cases q with
  | reset => cases h
  | _ =>
      cases h
      rfl

/-! ## Known parts -/

/-- Whether a part stands for a primitive. -/
def Identities.knows (i : Identities) (kind : PrimitiveKind) (name : String) : Bool :=
  (i.find? kind name).isSome

theorem Identities.knows_empty : empty.knows = fun _ _ => false := by
  funext kind name
  cases kind <;> rfl

namespace Registrar.Ledger

/-- A registration makes its part known. -/
theorem knows_register (l : Ledger) (kind kind' : PrimitiveKind) (name name' : String) :
    (l.register kind name).identities.knows kind' name' =
      (l.identities.knows kind' name' || (kind' == kind && name' == name)) := by
  unfold register
  cases there : l.identities.find? kind name with
  | some id =>
      by_cases same : kind' = kind ∧ name' = name
      · obtain ⟨rfl, rfl⟩ := same
        simp [Identities.knows, there]
      · have other : (kind' == kind && name' == name) = false := by simpa using same
        rw [other, Bool.or_false]
  | none =>
      show ((l.identities.insert kind name (l.counter + 1)).find? kind' name').isSome = _
      rw [Identities.find?_insert]
      by_cases same : kind' = kind ∧ name' = name
      · simp [same]
      · have other : (kind' == kind && name' == name) = false := by simpa using same
        rw [if_neg same, other, Bool.or_false]
        rfl

theorem knows_registerAll (kind kind' : PrimitiveKind) (name' : String) (names : List String) :
    ∀ l : Ledger, (l.registerAll kind names).identities.knows kind' name' =
      (l.identities.knows kind' name' || (kind' == kind && names.contains name')) := by
  induction names with
  | nil =>
      intro l
      simp [registerAll]
  | cons name names ih =>
      intro l
      show ((l.register kind name).registerAll kind names).identities.knows kind' name' = _
      rw [ih, knows_register, List.contains_cons, Bool.and_or_distrib_left, Bool.or_assoc]

theorem knows_registerKinds (inventory : Inventory) (kind' : PrimitiveKind) (name' : String)
    (kinds : List PrimitiveKind) :
    ∀ l : Ledger, (l.registerKinds inventory kinds).identities.knows kind' name' =
      (l.identities.knows kind' name' ||
        (kinds.contains kind' && (inventory.names kind').contains name')) := by
  induction kinds with
  | nil =>
      intro l
      simp [registerKinds]
  | cons kind kinds ih =>
      intro l
      show ((l.registerAll kind (inventory.names kind)).registerKinds inventory
        kinds).identities.knows kind' name' = _
      have own : (kind' == kind && (inventory.names kind).contains name') =
          (kind' == kind && (inventory.names kind').contains name') := by
        by_cases same : kind' = kind
        · rw [same]
        · rw [beq_false_of_ne same, Bool.false_and, Bool.false_and]
      rw [ih, knows_registerAll, own, List.contains_cons, Bool.and_or_distrib_right,
        Bool.or_assoc]

end Registrar.Ledger

/-! ## Links that are changed -/

namespace Scene

/-- The scene has for a mark what the updates of its link make of what it had. -/
theorem find?_after (m : MarkId) (as : List Action) : ∀ scene : Scene,
    (Scene.host.after scene as).find? m =
      (as.filter (·.links m)).foldl (fun mark a => a.relink mark) (scene.find? m) := by
  induction as with
  | nil =>
      intro scene
      rfl
  | cons a as ih =>
      intro scene
      show (Scene.host.after (scene.apply a) as).find? m = _
      rw [ih, find?_apply, List.filter_cons]
      split <;> rfl

end Scene

theorem Trace.links_batched (ds : Trace) (m : MarkId) :
    (actions (batched ds)).filter (·.links m) = (actions ds).filter (·.links m) := by
  rw [actions_batched]
  show (actions ds ++ [Action.endBatch]).filter (·.links m) = _
  rw [List.filter_append]
  exact List.append_nil _

theorem Binding.links_linkDeeds (r : Binding) (mark : SceneMark) {m : MarkId} (h : r.mark ≠ m) :
    (Trace.actions (r.linkDeeds mark)).filter (·.links m) = [] := by
  unfold linkDeeds
  cases mark.link with
  | none =>
      refine List.filter_cons_of_neg ?_
      simp [Action.link, Action.links, h]
  | some _ => rfl

namespace Registrar

theorem Ledger.links_register (l : Ledger) (kind : PrimitiveKind) (name : String) (m : MarkId) :
    (l.register kind name).actions.filter (·.links m) = l.actions.filter (·.links m) := by
  unfold register
  cases l.identities.find? kind name with
  | some _ => rfl
  | none =>
      show (l.actions ++ [creation kind name (l.counter + 1)]).filter (·.links m) = _
      rw [List.filter_append]
      exact List.append_nil _

theorem links_create (s : Stage) (c : Counter) (e : Envelope) (m : MarkId) :
    (create s c e).actions.filter (·.links m) = [] := by
  let quiet (l : Ledger) : Prop := l.actions.filter (·.links m) = []
  refine List.foldlRecOn (motive := quiet) (kindsOf s) _ rfl fun l none kind _ => ?_
  refine List.foldlRecOn (motive := quiet) (e.output.inventory.names kind) _ none ?_
  exact fun l none name _ => (l.links_register kind name m).trans none

/-- In a stage of the registrar, only the update of the bound property can change a link. -/
theorem links_work (s : Stage) (c : Counter) (e : Envelope) (m : MarkId) :
    (work s c e).actions.filter (·.links m) = (markActions s e).filter (·.links m) := by
  show ((create s c e).actions ++ markActions s e).filter (·.links m) = _
  rw [List.filter_append, links_create, List.nil_append]

theorem links_markActions (s : Stage) (e : Envelope) {m : MarkId} (h : e.markId ≠ m) :
    (markActions s e).filter (·.links m) = [] := by
  unfold markActions
  split
  · simp [Action.links, h]
  · rfl

end Registrar

/-! ## What the stages come to -/

namespace Binder

variable {b : Binder Registrar.Counter Scene}

/-- What the performances `ps` of `stages`, from the first one `p` to the last one, come to for the
marks. -/
structure Settles (b : Binder Registrar.Counter Scene) (p : Performance Registrar.Counter Scene)
    (stages : List Stage) (ps : List (Performance Registrar.Counter Scene))
    (last : Performance Registrar.Counter Scene) : Prop where
  known : ∀ kind name, (b.report last).envelope.identities.knows kind name =
    (p.envelope.identities.knows kind name ||
      ((stages.flatMap Registrar.kindsOf).contains kind &&
        (p.envelope.output.inventory.names kind).contains name))
  links : ∀ m, (ps.flatMap fun p => (b.report p).actions).filter (·.links m) =
    stages.flatMap fun s => (Registrar.markActions s p.envelope).filter (·.links m)
  ok : b.resultOf ps = .ok ()

/-- The changes of links in a batch that ends with the stages. -/
theorem Settles.links_batched {p last : Performance Registrar.Counter Scene} {stages : List Stage}
    {ps : List (Performance Registrar.Counter Scene)} (h : Settles b p stages ps last)
    (before : Trace) (id m : MarkId) :
    (Trace.actions (Trace.batched (before ++ ps.flatMap (b.performed id)))).filter (·.links m) =
      (Trace.actions before).filter (·.links m) ++
        stages.flatMap fun s => (Registrar.markActions s p.envelope).filter (·.links m) := by
  rw [Trace.links_batched, Trace.actions_append, List.filter_append, actions_flatMap_performed,
    h.links]

theorem sketches_batched_performed (before : Trace) (id : MarkId)
    (ps : List (Performance Registrar.Counter Scene)) :
    Trace.sketches (Trace.batched (before ++ ps.flatMap (b.performed id))) =
      Trace.sketches before := by
  rw [Trace.sketches_batched, Trace.sketches_append, sketches_flatMap_performed, List.append_nil]

section

variable (registrar : b.extractor = Registrar.full.extractor)
include registrar

theorem settles_single (p : Performance Registrar.Counter Scene) :
    Settles b p [p.stage] [p] p := by
  have report := report_eq_work registrar p
  refine ⟨?_, ?_, ?_⟩
  · intro kind name
    rw [report, List.flatMap_singleton]
    exact Registrar.Ledger.knows_registerKinds p.envelope.output.inventory kind name
      (Registrar.kindsOf p.stage) ⟨p.tools, p.envelope.identities, []⟩
  · intro m
    rw [List.flatMap_singleton, List.flatMap_singleton, report, Registrar.links_work]
  · rw [resultOf, List.map_singleton, report]
    rfl

theorem settles_cons {p last : Performance Registrar.Counter Scene} {s : Stage}
    {rest : List Stage} {ps : List (Performance Registrar.Counter Scene)}
    (h : Settles b (b.next p s) (s :: rest) ps last) :
    Settles b p (p.stage :: s :: rest) (p :: ps) last := by
  have first := settles_single registrar p
  have report := report_eq_work registrar p
  have output : (b.next p s).envelope.output = p.envelope.output := by
    rw [next, report]
    rfl
  -- A stage changes nothing in the envelope but the identities.
  have update (t : Stage) : Registrar.markActions t (b.next p s).envelope =
      Registrar.markActions t p.envelope := by
    rw [next, report]
    rfl
  refine ⟨?_, ?_, ?_⟩
  · intro kind name
    have known := first.known kind name
    rw [List.flatMap_singleton] at known
    rw [h.known, output]
    show ((b.report p).envelope.identities.knows kind name || _) = _
    have kinds : (p.stage :: s :: rest).flatMap Registrar.kindsOf =
        Registrar.kindsOf p.stage ++ (s :: rest).flatMap Registrar.kindsOf := List.flatMap_cons
    rw [known, kinds, List.contains_append, Bool.and_or_distrib_right, Bool.or_assoc]
  · intro m
    have links := first.links m
    rw [List.flatMap_singleton, List.flatMap_singleton] at links
    have later := h.links m
    simp only [update] at later
    rw [List.flatMap_cons, List.filter_append, links, later]
    rfl
  · rw [resultOf, List.map_cons, report]
    exact h.ok

theorem settles {p last : Performance Registrar.Counter Scene} {rest : List Stage}
    {earlier : List (Performance Registrar.Counter Scene)}
    (performs : b.performances p rest = earlier ++ [last]) :
    Settles b p (p.stage :: rest) (earlier ++ [last]) last :=
  of_performances registrar (settles_single registrar) (fun _ _ => settles_cons registrar) performs

/-- A binding changes no link but that of its mark. -/
theorem links_bind (datasets : Dataset.Cache) (r : Binding)
    (w : Workspace Registrar.Counter Scene) {m : MarkId} (other : r.mark ≠ m) :
    (b.actionsOf ⟨w, .bind datasets r⟩).filter (·.links m) = [] := by
  show (Trace.actions ((b.bind datasets r).run w).events).filter (·.links m) = []
  cases b.course datasets r w with
  | unopened opens ends =>
      rw [ends]
      rfl
  | rejected opens check account =>
      rw [account.actions]
      rfl
  | undecoded opens check decode account =>
      rw [account.actions, Trace.links_batched]
      exact r.links_linkDeeds _ other
  | uncompiled opens check decode compiles account =>
      rw [account.actions, Trace.links_batched, Trace.actions_append, List.filter_append,
        r.links_linkDeeds _ other]
      rfl
  | extracted opens check decode compiles performs account =>
      rw [account.actions, (settles registrar performs).links_batched, Trace.actions_append,
        List.filter_append, r.links_linkDeeds _ other]
      exact List.flatMap_eq_nil_iff.2 fun s _ => Registrar.links_markActions s _ other

end

end Binder

/-! ## Standings -/

/-- What a book has for a mark, without the numbers of its primitives. -/
structure Entry where
  sketch : Option Sketch
  known : Option (PrimitiveKind → String → Bool)

def Sketchbook.entry (b : Sketchbook) (m : MarkId) : Entry :=
  ⟨b.sketch? m, (b.identities? m).map Identities.knows⟩

theorem Sketchbook.entry_setBoth_self (b : Sketchbook) (m : MarkId) (s : Sketch)
    (i : Identities) : (b.setBoth m s i).entry m = ⟨some s, some i.knows⟩ := by
  rw [entry, sketch?_setBoth_self, identities?_setBoth_self, Option.map_some]

theorem Sketchbook.knows_identitiesFor (b : Sketchbook) (m : MarkId) :
    (b.identitiesFor m).knows = (b.entry m).known.getD fun _ _ => false := by
  unfold identitiesFor entry
  cases b.identities? m with
  | some i => rfl
  | none => exact Identities.knows_empty

/-- All that the calls for a mark depend on. -/
structure Standing where
  mark : Option SceneMark
  entry : Entry

def Workspace.standing {σ : Type} (w : Workspace σ Scene) (m : MarkId) : Standing :=
  ⟨w.world.find? m, w.book.entry m⟩

namespace Binder

variable {σ : Type} {b : Binder σ Scene}

/-- Two outcomes are alike for a mark. -/
structure Agrees (m : MarkId) (o o' : Outcome (Workspace σ Scene) BindEvent Unit) : Prop where
  result : o.result = o'.result
  sketches : Trace.sketches o.events = Trace.sketches o'.events
  standing : o.state.standing m = o'.state.standing m

/-- A binding is opened alike where its mark stands alike. -/
theorem opening_congr (host : b.host = Scene.host) {r : Binding} {w w' : Workspace σ Scene}
    (same : w.standing r.mark = w'.standing r.mark) : b.opening r w' = b.opening r w := by
  have mark : Scene.host.mark? w.world r.mark = Scene.host.mark? w'.world r.mark :=
    congrArg Standing.mark same
  have sketch : w.book.sketch? r.mark = w'.book.sketch? r.mark :=
    congrArg (·.entry.sketch) same
  unfold opening Sketchbook.sketchFor
  rw [host, mark, sketch]

theorem Agrees.of_accounts (host : b.host = Scene.host) {m : MarkId} {w w' : Workspace σ Scene}
    {o o' : Outcome (Workspace σ Scene) BindEvent Unit} {book book' : Sketchbook} {tools tools' : σ}
    {ds ds' : Trace} {r : Attempt Unit} (same : w.standing m = w'.standing m)
    (account : b.Account w o book tools ds r) (account' : b.Account w' o' book' tools' ds' r)
    (entry : book.entry m = book'.entry m)
    (links : (Trace.actions ds).filter (·.links m) = (Trace.actions ds').filter (·.links m))
    (sketches : Trace.sketches ds = Trace.sketches ds') : Agrees m o o' := by
  have mark : w.world.find? m = w'.world.find? m := congrArg Standing.mark same
  refine ⟨?_, ?_, ?_⟩
  · rw [account.result, account'.result]
  · rw [account.sketches, account'.sketches, sketches]
  · rw [account.state, account'.state, host, Workspace.standing, Workspace.standing,
      Scene.find?_after, Scene.find?_after, links, mark, entry]

/-- What calls come to, and the sketches that they have compiled. -/
def answers (b : Binder σ Scene) (xs : List (Visit σ Scene)) :
    List (Attempt Unit × List Sketch) :=
  xs.map fun x => ((b.outcome x).result, Trace.sketches (b.outcome x).events)

/-! ## Calls for the mark -/

section

variable {b : Binder Registrar.Counter Scene} (host : b.host = Scene.host)
  (registrar : b.extractor = Registrar.full.extractor)
include host registrar

theorem agrees_bind (datasets : Dataset.Cache) (r : Binding)
    {w w' : Workspace Registrar.Counter Scene} (same : w.standing r.mark = w'.standing r.mark) :
    Agrees r.mark ((b.bind datasets r).run w) ((b.bind datasets r).run w') := by
  have opening : b.opening r w' = b.opening r w := opening_congr host same
  have known : (w.book.identitiesFor r.mark).knows = (w'.book.identitiesFor r.mark).knows := by
    rw [Sketchbook.knows_identitiesFor, Sketchbook.knows_identitiesFor]
    exact congrArg (fun s => s.entry.known.getD fun _ _ => false) same
  have entry (s : Sketch) {i i' : Identities} (knows : i.knows = i'.knows) :
      (w.book.setBoth r.mark s i).entry r.mark = (w'.book.setBoth r.mark s i').entry r.mark := by
    rw [Sketchbook.entry_setBoth_self, Sketchbook.entry_setBoth_self, knows]
  -- What decides on the course stands alike in both workspaces, so they take the same one.
  cases b.course datasets r w with
  | unopened opens ends =>
      rw [ends, b.run_bind_of_error datasets r (opening.trans opens)]
      exact ⟨rfl, rfl, same⟩
  | rejected opens check account =>
      have account' := b.account_bind_of_rejected datasets r (opening.trans opens) check
      exact .of_accounts host same account account' (entry _ known) rfl rfl
  | undecoded opens check decode account =>
      have account' := b.account_bind_of_undecoded datasets r (opening.trans opens) check decode
      exact .of_accounts host same account account' (entry _ known) rfl rfl
  | uncompiled opens check decode compiles account =>
      have account' :=
        b.account_bind_of_uncompiled datasets r (opening.trans opens) check decode compiles
      exact .of_accounts host same account account' (entry _ known) rfl rfl
  | extracted opens check decode compiles performs account =>
      obtain ⟨earlier', last', performs', account'⟩ :=
        b.account_bind_of_compiled datasets r (opening.trans opens) check decode compiles
      have settles := settles registrar performs
      have settles' := Binder.settles registrar performs'
      rw [settles.ok] at account
      rw [settles'.ok] at account'
      refine .of_accounts host same account account' (entry _ ?_) ?_ ?_
      · funext kind name
        rw [settles.known, settles'.known]
        exact congrArg (fun knows => knows kind name || _) known
      · rw [settles.links_batched, settles'.links_batched]
        rfl
      · rw [sketches_batched_performed, sketches_batched_performed]

/-- **A call comes to the same wherever its mark stands alike.** -/
theorem agrees {m : MarkId} {q : Request} (concerns : q.concerns m = true)
    {w w' : Workspace Registrar.Counter Scene} (same : w.standing m = w'.standing m) :
    Agrees m (b.outcome ⟨w, q⟩) (b.outcome ⟨w', q⟩) := by
  have sketch : w.book.sketch? m = w'.book.sketch? m := congrArg (·.entry.sketch) same
  cases q with
  | bind datasets r =>
      obtain rfl : r.mark = m := beq_iff_eq.1 concerns
      exact agrees_bind host registrar datasets r same
  | unbind n property =>
      obtain rfl : n = m := beq_iff_eq.1 concerns
      refine .of_accounts host same (b.account_unbind w n property)
        (b.account_unbind w' n property) ?_ rfl rfl
      have known : (w.book.identities? n).map Identities.knows =
          (w'.book.identities? n).map Identities.knows := congrArg (·.entry.known) same
      rw [Sketchbook.entry, Sketchbook.entry, Sketchbook.sketch?_editSketch_self,
        Sketchbook.sketch?_editSketch_self, Sketchbook.identities?_editSketch,
        Sketchbook.identities?_editSketch, sketch, known]
  | evict n =>
      obtain rfl : n = m := beq_iff_eq.1 concerns
      refine .of_accounts host same (b.account_evict w n) (b.account_evict w' n) ?_ rfl rfl
      rw [Sketchbook.entry, Sketchbook.entry, Sketchbook.sketch?_evict_self,
        Sketchbook.sketch?_evict_self, Sketchbook.identities?_evict_self,
        Sketchbook.identities?_evict_self]
  | reset => exact .of_accounts host same (b.account_reset w) (b.account_reset w') rfl rfl rfl

/-! ## Calls for other marks -/

/-- **A call for another mark leaves a mark standing as it stands.** -/
theorem standing_outcome (x : Visit Registrar.Counter Scene) {m : MarkId}
    (h : x.request.concerns m = false) :
    (b.outcome x).state.standing m = x.start.standing m := by
  have links : (b.actionsOf x).filter (·.links m) = [] := by
    obtain ⟨w, q⟩ := x
    cases q with
    | bind datasets r => exact links_bind registrar datasets r w (beq_eq_false_iff_ne.1 h)
    | unbind n property =>
        rw [actionsOf, outcome, handle, (b.account_unbind w n property).actions]
        rfl
    | evict n => rfl
    | reset => rfl
  obtain ⟨sketch, identities⟩ := b.entry_of_not_concerns x h
  rw [Workspace.standing, world_outcome, host, Scene.find?_after, links, Sketchbook.entry, sketch,
    identities]
  rfl

/-! ## Sessions -/

/-- **A session goes in step with the session of a mark's own calls.** -/
theorem agrees_session (m : MarkId) (requests : List Request) :
    ∀ {w w' : Workspace Registrar.Counter Scene}, w.standing m = w'.standing m →
      b.answers ((b.visits w (requests.map .call)).filter (·.request.concerns m)) =
          b.answers (b.visits w' ((requests.filter (·.concerns m)).map .call)) ∧
        (b.after w (requests.map .call)).standing m =
          (b.after w' ((requests.filter (·.concerns m)).map .call)).standing m := by
  -- Induction on the requests, for every two workspaces: a call for the mark is made in both runs,
  -- and any other call is left out of the second run.
  induction requests with
  | nil =>
      intro w w' same
      exact ⟨rfl, same⟩
  | cons q requests ih =>
      intro w w' same
      cases concerns : q.concerns m with
      | true =>
          have agrees := agrees host registrar concerns same
          obtain ⟨calls, final⟩ := ih agrees.standing
          have own : (b.visits w ((q :: requests).map .call)).filter (·.request.concerns m) =
              ⟨w, q⟩ :: (b.visits (b.outcome ⟨w, q⟩).state (requests.map .call)).filter
                (·.request.concerns m) := List.filter_cons_of_pos concerns
          rw [List.filter_cons_of_pos concerns, own]
          refine ⟨?_, final⟩
          show (_, _) :: b.answers _ = (_, _) :: b.answers _
          rw [agrees.result, agrees.sketches, calls]
          rfl
      | false =>
          have left : (b.outcome ⟨w, q⟩).state.standing m = w'.standing m :=
            (standing_outcome host registrar ⟨w, q⟩ concerns).trans same
          have skip : ¬ q.concerns m = true := Bool.eq_false_iff.1 concerns
          have others : (b.visits w ((q :: requests).map .call)).filter (·.request.concerns m) =
              (b.visits (b.outcome ⟨w, q⟩).state (requests.map .call)).filter
                (·.request.concerns m) := List.filter_cons_of_neg skip
          rw [List.filter_cons_of_neg skip, others]
          exact ih left

end

/-- What a session does to a mark is what the mark's own calls do to it. -/
structure Undisturbed (b : Binder Registrar.Counter Scene) (w : Workspace Registrar.Counter Scene)
    (m : MarkId) (requests own : List Request) : Prop where
  /-- The calls for the mark come to the same, and have the same sketches compiled. -/
  answers : b.answers ((b.visits w (requests.map .call)).filter (·.request.concerns m)) =
    b.answers (b.visits w (own.map .call))
  sketch : (b.after w (requests.map .call)).book.sketch? m =
    (b.after w (own.map .call)).book.sketch? m
  /-- The same parts stand for primitives, though maybe for others. -/
  known : ((b.after w (requests.map .call)).book.identities? m).map Identities.knows =
    ((b.after w (own.map .call)).book.identities? m).map Identities.knows
  /-- The mark is the same in the scene, with its link. -/
  mark : (b.after w (requests.map .call)).world.find? m = (b.after w (own.map .call)).world.find? m

/-- **Marks are independent.** With the registrar, from any workspace, and whatever the compiler: in
any interleaving of the calls for two marks, each mark is left to its own calls. -/
theorem marks_independent (settings : Settings) (compiler : Compiler)
    (w : Workspace Registrar.Counter Scene) {m n : MarkId} (ne : m ≠ n)
    {ms ns requests : List Request} (forM : ∀ q ∈ ms, q.mark? = some m)
    (forN : ∀ q ∈ ns, q.mark? = some n) (mixed : Interleaving ms ns requests) :
    Undisturbed (registering settings compiler) w m requests ms ∧
      Undisturbed (registering settings compiler) w n requests ns := by
  have alone {k : MarkId} {own : List Request}
      (mine : requests.filter (·.concerns k) = own) :
      Undisturbed (registering settings compiler) w k requests own := by
    obtain ⟨answers, standing⟩ :=
      agrees_session (b := registering settings compiler) rfl rfl k requests
        (rfl : w.standing k = w.standing k)
    rw [mine] at answers standing
    exact ⟨answers, congrArg (·.entry.sketch) standing, congrArg (·.entry.known) standing,
      congrArg Standing.mark standing⟩
  refine ⟨alone ?_, alone ?_⟩
  · refine mixed.filter_left (fun q hq => ?_) fun q hq => ?_
    · rw [Request.concerns_of_mark? (forM q hq)]
      exact beq_self_eq_true m
    · rw [Request.concerns_of_mark? (forN q hq)]
      exact beq_false_of_ne ne.symm
  · refine mixed.swap.filter_left (fun q hq => ?_) fun q hq => ?_
    · rw [Request.concerns_of_mark? (forN q hq)]
      exact beq_self_eq_true n
    · rw [Request.concerns_of_mark? (forM q hq)]
      exact beq_false_of_ne ne

theorem marks_independent_two_marks :
    let w : Workspace Registrar.Counter Scene :=
      ⟨Sketchbook.empty, 0, Table.ofList [(7, ⟨7, "rect", none, ∅⟩), (9, ⟨9, "symbol", none, ∅⟩)]⟩
    let ms : List Request :=
      [.bind (.new fun _ => []) ⟨1, Field.plain "price" .quantitative, 7, "x"⟩, .unbind 7 "x"]
    let ns : List Request :=
      [.bind (.new fun _ => []) ⟨2, Field.plain "kind" .nominal, 9, "fill"⟩, .evict 9]
    let requests : List Request :=
      [.bind (.new fun _ => []) ⟨1, Field.plain "price" .quantitative, 7, "x"⟩,
        .bind (.new fun _ => []) ⟨2, Field.plain "kind" .nominal, 9, "fill"⟩,
        .unbind 7 "x", .evict 9]
    (7 : MarkId) ≠ 9 ∧ (∀ q ∈ ms, q.mark? = some 7) ∧ (∀ q ∈ ns, q.mark? = some 9) ∧
      Interleaving ms ns requests ∧
      Undisturbed (registering Settings.default PlainCompiler.compile) w 7 requests ms ∧
      Undisturbed (registering Settings.default PlainCompiler.compile) w 9 requests ns := by
  intro w ms ns requests
  have ne : (7 : MarkId) ≠ 9 := by decide
  have forM : ∀ q ∈ ms, q.mark? = some 7 := by decide
  have forN : ∀ q ∈ ns, q.mark? = some 9 := by decide
  have mixed : Interleaving ms ns requests := .left (.right (.left (.right .nil)))
  exact ⟨ne, forM, forN, mixed, marks_independent _ _ w ne forM forN mixed⟩

end Binder

end ChartBinding
