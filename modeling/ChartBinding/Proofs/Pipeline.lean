import ChartBinding.PlainCompiler
import ChartBinding.Proofs.SingleBatch
import ChartBinding.Proofs.Session

/-!
# One pipeline for each mark

The link of a mark is kept by the scene, and the channels of its sketch by the book. That all its
channels show one data set is thus a matter of both. It rests on two facts about the dispatched
actions. A binding links its mark only if nothing drives it, and then the link that the scene reads
is the one that was written (`Link.read_write`). So the actions of a session are *disciplined*:
whenever one links a mark, nothing drives the mark before and something does afterwards. A
disciplined sequence links a mark at most once and never changes a link.

All of this needs stages that leave links alone (`Extractor.KeepsLinks`).
-/

namespace ChartBinding

/-! ## Links are read back -/

theorem Json.readId_ofId (n : UInt32) : Json.readId (Json.ofId n) = .ok n := by
  have range : 0 ≤ (n.toNat : Int) ∧ (n.toNat : Int) < UInt32.size := by
    have bound := n.toNat_lt_size
    omega
  simp only [Json.ofId, Json.readId, if_pos range, Int.toNat_natCast]
  rw [UInt32.ofNat_toNat]

theorem Json.readOption_ofId (n : UInt32) :
    Json.readOption Json.readId (Json.ofId n) = .ok (some n) := by
  show (Json.readId (Json.ofId n)).map some = _
  rw [Json.readId_ofId]
  rfl

/-- An optional identifier is read back from where it was written. -/
theorem Source.finish_optional_id {ms : List (String × Json)} {name : String} {n : Option UInt32}
    (h : Json.lookup name ms = n.map Json.ofId) :
    ((Source.members ms).optional name Json.readId).finish = .ok n := by
  rw [Source.finish_optional]
  cases n with
  | none => exact .inl ⟨h, rfl⟩
  | some n => exact .inr ⟨_, h, Json.readOption_ofId n⟩

/-- A link is read back from what was written. -/
theorem Link.read_write (l : Link) : Link.read l.write = .ok l := by
  obtain ⟨data, mark⟩ := l
  have fields : (["data", "mark"] : List String).Nodup := by decide
  unfold Link.read Link.write Json.plainRecord
  rw [RecordShape.readPlain]
  show Gather.finish (_ <*> _) = _
  rw [Gather.finish_seq]
  refine ⟨_, _, ?_, Source.finish_optional_id (n := mark) ?_, rfl⟩
  · show Gather.finish (pure Link.mk <*> _) = _
    rw [Gather.finish_seq]
    exact ⟨_, _, rfl, Source.finish_optional_id (n := data) (Json.lookup_ofFields _ _ fields), rfl⟩
  · exact Json.lookup_ofFields _ _ fields

theorem Link.ofJson?_write (l : Link) : Link.ofJson? l.write = some l := by
  unfold Link.ofJson?
  rw [Link.read_write]
  rfl

/-! ## Links in the scene -/

/-- Whether an action changes the link of a mark. -/
def Action.links (m : MarkId) : Action → Bool
  | .updateMark n property _ => n == m && property == "from"
  | _ => false

/-- What an update of a link makes of a mark. -/
def Action.relink (a : Action) (mark : Option SceneMark) : Option SceneMark :=
  match a with
  | .updateMark _ _ value => mark.map fun s => { s with link := Link.ofJson? value }
  | _ => mark

namespace Scene

def linkOf (scene : Scene) (m : MarkId) : Option Link := (scene.find? m).bind (·.link)

theorem find?_apply (scene : Scene) (m : MarkId) (a : Action) :
    (scene.apply a).find? m =
      if a.links m then a.relink (scene.find? m) else scene.find? m := by
  cases a with
  | updateMark n property value =>
      by_cases from_ : property = "from"
      · simp only [apply, if_pos from_]
        by_cases own : m = n
        · subst own
          cases there : scene.find? m with
          | none => simp [Action.links, Action.relink, there]
          | some s =>
              rw [Table.find?_insert_self]
              simp [Action.links, Action.relink, from_]
        · have other : n ≠ m := Ne.symm own
          cases scene.find? n with
          | none => simp [Action.links, other]
          | some s =>
              rw [Table.find?_insert_of_ne _ _ own]
              simp [Action.links, other]
      · simp [apply, Action.links, from_]
  | startBatch => rfl
  | endBatch => rfl
  | resetVisual _ _ => rfl
  | custom _ _ => rfl

theorem linkOf_apply_of_not_links (scene : Scene) {m : MarkId} {a : Action}
    (h : a.links m = false) : (scene.apply a).linkOf m = scene.linkOf m := by
  rw [linkOf, find?_apply, h]
  rfl

theorem linkOf_apply_link {scene : Scene} {m : MarkId} {mark : SceneMark}
    (h : scene.find? m = some mark) (l : Link) :
    (scene.apply (Action.link m l)).linkOf m = some l := by
  simp only [Action.link, apply, if_pos, h, linkOf, Table.find?_insert_self, Option.bind_some]
  exact Link.ofJson?_write l

end Scene

/-! ## Disciplined actions -/

namespace Action

/-- Whenever an action links the mark, nothing drives it before, and something does afterwards. -/
def Disciplined (m : MarkId) : Scene → List Action → Prop
  | _, [] => True
  | scene, a :: rest =>
    (a.links m = true → scene.linkOf m = none ∧ (scene.apply a).linkOf m ≠ none) ∧
      Disciplined m (scene.apply a) rest

variable {m : MarkId}

theorem Disciplined.append {as bs : List Action} : ∀ {scene : Scene}, Disciplined m scene as →
    Disciplined m (Scene.host.after scene as) bs → Disciplined m scene (as ++ bs) := by
  induction as with
  | nil =>
      intro scene _ hb
      exact hb
  | cons a as ih =>
      intro scene ha hb
      exact ⟨ha.1, ih ha.2 hb⟩

theorem Disciplined.of_append {as bs : List Action} : ∀ {scene : Scene},
    Disciplined m scene (as ++ bs) →
      Disciplined m scene as ∧ Disciplined m (Scene.host.after scene as) bs := by
  induction as with
  | nil =>
      intro scene h
      exact ⟨trivial, h⟩
  | cons a as ih =>
      intro scene h
      obtain ⟨rest, after⟩ := ih h.2
      exact ⟨⟨h.1, rest⟩, after⟩

theorem disciplined_of_not_links {as : List Action} (h : ∀ a ∈ as, a.links m = false) :
    ∀ scene : Scene, Disciplined m scene as := by
  induction as with
  | nil =>
      intro scene
      trivial
  | cons a as ih =>
      intro scene
      refine ⟨fun links => ?_, ih (fun a' ha' => h a' (List.mem_cons_of_mem a ha')) _⟩
      rw [h a List.mem_cons_self] at links
      cases links

/-- A mark that is driven stays so, by the same. -/
theorem Disciplined.linkOf_after {as : List Action} {l : Link} : ∀ {scene : Scene},
    Disciplined m scene as → scene.linkOf m = some l →
      (Scene.host.after scene as).linkOf m = some l ∧ as.filter (·.links m) = [] := by
  induction as with
  | nil =>
      intro scene _ hl
      exact ⟨hl, rfl⟩
  | cons a as ih =>
      intro scene h hl
      have quiet : a.links m = false := by
        refine Bool.eq_false_iff.2 fun links => ?_
        rw [(h.1 links).1] at hl
        cases hl
      rw [← scene.linkOf_apply_of_not_links quiet] at hl
      obtain ⟨same, none_later⟩ := ih h.2 hl
      refine ⟨same, ?_⟩
      rw [List.filter_cons_of_neg (by rw [quiet]; exact Bool.false_ne_true), none_later]

/-- A mark is linked at most once. -/
theorem Disciplined.length_links_le {as : List Action} : ∀ {scene : Scene},
    Disciplined m scene as → (as.filter (·.links m)).length ≤ 1 := by
  induction as with
  | nil =>
      intro scene _
      exact Nat.zero_le 1
  | cons a as ih =>
      intro scene h
      cases links : a.links m with
      | false =>
          rw [List.filter_cons_of_neg (by rw [links]; exact Bool.false_ne_true)]
          exact ih h.2
      | true =>
          obtain ⟨l, hl⟩ := Option.ne_none_iff_exists'.1 (h.1 links).2
          rw [List.filter_cons_of_pos links, (h.2.linkOf_after hl).2]
          exact Nat.le_refl 1

end Action

/-! ## Calls are disciplined -/

/-- The stages of an extractor change no link. -/
def Extractor.KeepsLinks {σ ω : Type} (e : Extractor σ ω) : Prop :=
  ∀ stage tools world envelope, ∀ a ∈ (e.perform stage tools world envelope).actions,
    ∀ m value, a ≠ .updateMark m "from" value

theorem Extractor.KeepsLinks.links_eq_false {σ ω : Type} {e : Extractor σ ω} (h : e.KeepsLinks)
    {stage : Stage} {tools : σ} {world : ω} {envelope : Envelope} {a : Action}
    (ha : a ∈ (e.perform stage tools world envelope).actions) (m : MarkId) :
    a.links m = false := by
  cases a with
  | updateMark n property value =>
      refine Bool.eq_false_iff.2 fun links => ?_
      obtain ⟨-, rfl⟩ : n = m ∧ property = "from" := by simpa [Action.links] using links
      exact h stage tools world envelope _ ha n value rfl
  | _ => rfl

/-- An extractor that only tells which stage it is in. -/
def Extractor.announcing {σ ω : Type} : Extractor σ ω where
  perform s tools _ e := ⟨tools, e, [.custom s.name .null], .ok ()⟩

theorem Extractor.keepsLinks_announcing {σ ω : Type} :
    (announcing : Extractor σ ω).KeepsLinks := by
  intro stage tools world envelope a ha m value
  obtain rfl := List.mem_singleton.1 ha
  exact nofun

namespace Binder

variable {σ : Type} {b : Binder σ Scene}

theorem disciplined_linking (r : Binding) {scene : Scene} {mark : SceneMark}
    (found : scene.find? r.mark = some mark) (m : MarkId) :
    Action.Disciplined m scene (linking r mark) := by
  cases hl : mark.link with
  | some l =>
      rw [linking, if_neg (by rw [hl]; exact nofun)]
      trivial
  | none =>
      rw [linking, if_pos hl]
      refine ⟨fun links => ?_, trivial⟩
      obtain rfl : r.mark = m := by simpa [Action.links] using links
      refine ⟨?_, ?_⟩
      · rw [Scene.linkOf, found]
        exact hl
      · show (scene.apply (Action.link r.mark r.link)).linkOf r.mark ≠ none
        rw [Scene.linkOf_apply_link found]
        exact nofun

/-- **A call is disciplined.** -/
theorem disciplined_actionsOf (host : b.host = Scene.host) (keeps : b.extractor.KeepsLinks)
    (x : Visit σ Scene) (m : MarkId) : Action.Disciplined m x.start.world (b.actionsOf x) := by
  obtain ⟨w, q⟩ := x
  cases q with
  | evict n => trivial
  | reset => trivial
  | unbind n property =>
      have actions : b.actionsOf ⟨w, .unbind n property⟩ =
          [.startBatch, .resetVisual n property, .endBatch] :=
        (b.account_unbind w n property).actions
      rw [actions]
      refine Action.disciplined_of_not_links ?_ _
      simp [Action.links]
  | bind datasets r =>
      cases opens : b.opening r w with
      | error f =>
          have ended : b.outcome ⟨w, .bind datasets r⟩ = _ :=
            b.run_bind_of_error datasets r opens
          rw [actionsOf, ended]
          trivial
      | ok opened =>
          obtain ⟨found, -⟩ := opening_eq_ok_iff.1 opens
          rw [host] at found
          obtain ⟨sketches, ps, batch, -⟩ := b.exists_isBatch datasets r w opens
          have actions : b.actionsOf ⟨w, .bind datasets r⟩ = _ := batch.actions
          -- Only the link that the binding dispatches itself can link a mark: the ends of the batch
          -- never do, and the stages leave links alone.
          rw [actions, List.append_assoc]
          refine ⟨nofun, Action.Disciplined.append (disciplined_linking r found m) ?_⟩
          refine Action.disciplined_of_not_links ?_ _
          intro a ha
          rcases List.mem_append.1 ha with ha | ha
          · obtain ⟨p, -, hp⟩ := List.mem_flatMap.1 ha
            exact keeps.links_eq_false hp m
          · obtain rfl := List.mem_singleton.1 ha
            rfl

/-- **A closed session is disciplined.** -/
theorem disciplined_session (host : b.host = Scene.host) (keeps : b.extractor.KeepsLinks)
    (m : MarkId) (requests : List Request) : ∀ w : Workspace σ Scene,
      Action.Disciplined m w.world (b.actionsOfAll (b.visits w (requests.map .call))) := by
  induction requests with
  | nil =>
      intro w
      trivial
  | cons q requests ih =>
      intro w
      refine Action.Disciplined.append (disciplined_actionsOf host keeps ⟨w, q⟩ m) ?_
      have later := ih (b.outcome ⟨w, q⟩).state
      rw [world_outcome, host] at later
      exact later

/-! ## Single calls -/

theorem linkOf_after_linkDeeds {r : Binding} {scene : Scene} {mark : SceneMark}
    {p : SceneMark.Pipeline} (found : scene.find? r.mark = some mark)
    (check : mark.checkPipeline r.dataset = .ok p) :
    (Scene.host.after scene (Trace.actions (r.linkDeeds mark))).linkOf r.mark = some r.link := by
  unfold Binding.linkDeeds
  rcases SceneMark.link_of_checkPipeline check with ⟨-, hl⟩ | ⟨-, hl⟩
  · rw [hl]
    exact Scene.linkOf_apply_link found r.link
  · rw [hl]
    show scene.linkOf r.mark = _
    rw [Scene.linkOf, found]
    exact hl

/-- A sketch is compiled with the rows of the data set that drives its mark at that moment. -/
theorem linkOf_compiled (host : b.host = Scene.host) {w : Workspace σ Scene}
    {datasets : Dataset.Cache} {r : Binding} {t t' : Trace} {s : Sketch}
    (split : (b.outcome ⟨w, .bind datasets r⟩).events = t ++ .compiled s :: t') :
    s.data.values = datasets.output r.dataset ∧
      (Scene.host.after w.world (Trace.actions t)).linkOf r.mark = some r.link := by
  obtain ⟨mark, s₀, p, d, opens, check, -, rfl, actions⟩ :=
    (b.course datasets r w).of_compiled split
  obtain ⟨found, -⟩ := opening_eq_ok_iff.1 opens
  rw [host] at found
  refine ⟨rfl, ?_⟩
  rw [actions]
  exact linkOf_after_linkDeeds found check

/-- A binding to a data set that does not drive its mark is refused, and leaves every channel as it
was. -/
theorem rejected_of_ne {w : Workspace σ Scene} (datasets : Dataset.Cache) {r : Binding}
    {mark : SceneMark} {s : Sketch} {l : Link}
    (opens : b.opening r w = .ok (mark, s))
    (driven : mark.link = some l) (ne : l ≠ Link.toDataset r.dataset) :
    let o := b.outcome ⟨w, .bind datasets r⟩
    (∃ message, o.result = .error ⟨.pipelineMismatch message, []⟩) ∧
      Trace.actions o.events = [.startBatch, .endBatch] ∧
      Trace.sketches o.events = [] ∧ Trace.stages o.events = [] ∧
      ∀ n c, o.state.book.channel? n c = w.book.channel? n c := by
  intro o
  obtain ⟨message, check⟩ := SceneMark.checkPipeline_of_ne driven ne
  obtain ⟨-, sketch⟩ := opening_eq_ok_iff.1 opens
  have account := b.account_bind_of_rejected datasets r opens check
  refine ⟨⟨message, account.result⟩, account.actions, account.sketches, account.stages, ?_⟩
  intro n c
  show ((b.bind datasets r).run w).state.book.channel? n c = _
  rw [account.book_eq]
  exact Sketchbook.channel?_setBoth_of_sketchFor sketch _ n c

/-! ## Whole sessions -/

/-- One pipeline for a mark, in a closed session from the workspace `w`. -/
structure SinglePipeline (b : Binder σ Scene) (w : Workspace σ Scene) (requests : List Request)
    (m : MarkId) : Prop where
  /-- The scene moves by the dispatched actions alone. -/
  scene : ∀ earlier x later, b.visits w (requests.map .call) = earlier ++ x :: later →
    x.start.world = Scene.host.after w.world (b.actionsOfAll earlier)
  /-- The mark is linked at most once. -/
  once : ((b.actionsOfAll (b.visits w (requests.map .call))).filter (·.links m)).length ≤ 1
  /-- A link stays as it is. -/
  stays : ∀ before between later l,
    b.actionsOfAll (b.visits w (requests.map .call)) = before ++ between ++ later →
    (Scene.host.after w.world before).linkOf m = some l →
    (Scene.host.after w.world (before ++ between)).linkOf m = some l
  /-- All compilations are for one data set, and the mark is linked to it at that moment. -/
  dataset : ∃ d, ∀ x ∈ b.visits w (requests.map .call), ∀ datasets r t s t',
    x.request = .bind datasets r → r.mark = m → (b.outcome x).events = t ++ .compiled s :: t' →
    r.dataset = d ∧ s.data.values = datasets.output d ∧
      (Scene.host.after x.start.world (Trace.actions t)).linkOf m = some ⟨some d, none⟩
  /-- A mark that is driven by a mark, or by nothing named, is never compiled. -/
  uncompiled : ∀ l, w.world.linkOf m = some l → l.mark ≠ none ∨ l.data = none →
    ∀ x ∈ b.visits w (requests.map .call), ∀ datasets r, x.request = .bind datasets r →
    r.mark = m → Trace.sketches (b.outcome x).events = []
  /-- A binding to another data set than the one that drives the mark is refused. -/
  refused : ∀ x ∈ b.visits w (requests.map .call), ∀ datasets r mark l,
    x.request = .bind datasets r → r.mark = m → x.start.world.find? m = some mark →
    (x.start.book.sketch? m ≠ none ∨ mark.type ∈ ["rect", "symbol", "text", "line", "area"]) →
    mark.link = some l → l ≠ ⟨some r.dataset, none⟩ →
    (∃ message, (b.outcome x).result = .error ⟨.pipelineMismatch message, []⟩) ∧
      Trace.actions (b.outcome x).events = [.startBatch, .endBatch] ∧
      Trace.sketches (b.outcome x).events = [] ∧ Trace.stages (b.outcome x).events = [] ∧
      ∀ n c, (b.outcome x).state.book.channel? n c = x.start.book.channel? n c

section

variable {w : Workspace σ Scene} {requests : List Request} (host : b.host = Scene.host)
  (keeps : b.extractor.KeepsLinks)
include host keeps

/-- What drives a mark when it is compiled drives it when the session ends. -/
theorem linkOf_final {x : Visit σ Scene} (hx : x ∈ b.visits w (requests.map .call))
    {datasets : Dataset.Cache} {r : Binding} (hq : x.request = .bind datasets r) {t t' : Trace}
    {s : Sketch} (split : (b.outcome x).events = t ++ .compiled s :: t') :
    (b.after w (requests.map .call)).world.linkOf r.mark = some r.link := by
  obtain ⟨start, q⟩ := x
  subst hq
  obtain ⟨earlier, later, cut⟩ := List.append_of_mem hx
  have found : start.world = b.host.after w.world (b.actionsOfAll earlier) :=
    b.start_world requests cut
  have final := b.world_after_calls requests w
  rw [host] at found final
  -- The session is cut at the compilation: what is dispatched from there on finds the mark linked.
  have tail : b.actionsOfAll (⟨start, .bind datasets r⟩ :: later) =
      Trace.actions t ++ (Trace.actions (.compiled s :: t') ++ b.actionsOfAll later) := by
    rw [← List.append_assoc, ← Trace.actions_append, ← split]
    rfl
  have whole := disciplined_session host keeps r.mark requests w
  rw [cut, actionsOfAll_append] at whole
  have rest := (Action.Disciplined.of_append whole).2
  rw [← found, tail] at rest
  obtain ⟨-, linked⟩ := linkOf_compiled host split
  have kept := ((Action.Disciplined.of_append rest).2.linkOf_after linked).1
  rw [final, cut, actionsOfAll_append, tail, Host.after_append, ← found, Host.after_append]
  exact kept

/-- All compilations for a mark are for one data set. -/
theorem exists_dataset (m : MarkId) :
    ∃ d, ∀ x ∈ b.visits w (requests.map .call), ∀ datasets r t s t',
      x.request = .bind datasets r → r.mark = m → (b.outcome x).events = t ++ .compiled s :: t' →
      r.dataset = d ∧ s.data.values = datasets.output d ∧
        (Scene.host.after x.start.world (Trace.actions t)).linkOf m = some ⟨some d, none⟩ := by
  -- The data set is that of the link at the end of the session; without a link there, nothing was
  -- compiled and every data set will do.
  cases final : (b.after w (requests.map .call)).world.linkOf m with
  | none =>
      refine ⟨0, ?_⟩
      rintro x hx datasets r t s t' hq rfl split
      rw [linkOf_final host keeps hx hq split] at final
      cases final
  | some l =>
      refine ⟨l.data.getD 0, ?_⟩
      rintro ⟨start, q⟩ hx datasets r t s t' hq rfl split
      rw [linkOf_final host keeps hx hq split] at final
      cases final
      subst hq
      exact ⟨rfl, linkOf_compiled host split⟩

/-- A mark that is driven by a mark, or by nothing named, is never compiled. -/
theorem uncompiled_of_unnamed {m : MarkId} {l : Link} (initial : w.world.linkOf m = some l)
    (unnamed : l.mark ≠ none ∨ l.data = none) {x : Visit σ Scene}
    (hx : x ∈ b.visits w (requests.map .call)) {datasets : Dataset.Cache}
    {r : Binding} (hq : x.request = .bind datasets r) (same : r.mark = m) :
    Trace.sketches (b.outcome x).events = [] := by
  subst same
  by_cases quiet : Trace.sketches (b.outcome x).events = []
  · exact quiet
  · obtain ⟨t, s, t', split⟩ := Trace.exists_compiled quiet
    have final := linkOf_final host keeps hx hq split
    have kept := ((disciplined_session host keeps r.mark requests w).linkOf_after initial).1
    have moved := b.world_after_calls requests w
    rw [host] at moved
    -- The link at the end is both the initial one and one that names just a data set.
    rw [moved, kept] at final
    cases final
    rcases unnamed with names | unnamed
    · exact absurd rfl names
    · cases unnamed

end

/-- **One pipeline for each mark.** Whatever the compiler and whatever the order of calls, if the
stages leave links alone, then a mark is linked at most once, its link stays, everything that is
compiled for it is compiled for the data set of that link, and every binding to another data set is
refused. -/
theorem single_pipeline (settings : Settings) (compiler : Compiler)
    (extractor : Extractor σ Scene) (keeps : extractor.KeepsLinks) (w : Workspace σ Scene)
    (requests : List Request) (m : MarkId) :
    SinglePipeline (onScene settings compiler extractor) w requests m := by
  have disciplined : Action.Disciplined m w.world
      ((onScene settings compiler extractor).actionsOfAll
        ((onScene settings compiler extractor).visits w (requests.map .call))) :=
    disciplined_session rfl keeps m requests w
  refine ⟨?_, disciplined.length_links_le, ?_, exists_dataset rfl keeps m, ?_, ?_⟩
  · intro earlier x later cut
    exact (onScene settings compiler extractor).start_world requests cut
  · intro before between later l cut linked
    rw [cut] at disciplined
    obtain ⟨upto, -⟩ := disciplined.of_append
    rw [Host.after_append]
    exact (upto.of_append.2.linkOf_after linked).1
  · intro l initial unnamed x hx datasets r hq same
    exact uncompiled_of_unnamed rfl keeps initial unnamed hx hq same
  · rintro ⟨start, q⟩ hx datasets r mark l hq rfl found known driven ne
    subst hq
    obtain ⟨s, opens⟩ :=
      ((onScene settings compiler extractor).opening_isOk_iff r start mark).2 ⟨found, known⟩
    exact rejected_of_ne datasets opens driven ne

theorem single_pipeline_announcing :
    (Extractor.announcing : Extractor Unit Scene).KeepsLinks ∧
      SinglePipeline (onScene Settings.default PlainCompiler.compile Extractor.announcing)
        ⟨Sketchbook.empty, (), Table.ofList [(7, ⟨7, "rect", none, ∅⟩)]⟩
        [.bind (.new fun _ => []) ⟨1, Field.plain "price" .quantitative, 7, "x"⟩,
          .bind (.new fun _ => []) ⟨2, Field.plain "weight" .quantitative, 7, "y"⟩,
          .evict 7,
          .bind (.new fun _ => []) ⟨1, Field.plain "date" .temporal, 7, "width"⟩] 7 :=
  ⟨Extractor.keepsLinks_announcing,
    single_pipeline Settings.default PlainCompiler.compile Extractor.announcing
      Extractor.keepsLinks_announcing _ _ 7⟩

end Binder

end ChartBinding
