import ChartBinding.Proofs.Session
import ChartBinding.Proofs.Upkeep

/-!
# Sketches are replays

The sketch of a mark is determined by the calls for that mark since it was last forgotten: the first
of them that finds the mark with a known type makes the sketch, and from there on each sets or
empties its channel. Nothing else enters into it: not what the compiler or the stages came to, and
not the calls for other marks.

The proof has two steps. A call does to the sketch of a mark what `Visit.upkeep` says
(`sketch?_outcome`), which is a machine on a single optional sketch; and a run of such a machine is
a replay (`Upkeep.isReplay_foldl`).
-/

namespace ChartBinding

/-! ## The machine -/

/-- What a binding of a mark makes of its channels: one is set, if the mark may be bound and the
field tells its derivation. -/
def Binding.edit (r : Binding) (mark : SceneMark) (channels : Table Channel ChannelDef) :
    Table Channel ChannelDef :=
  match mark.checkPipeline r.dataset, r.field.channelDef with
  | .ok _, .ok d => channels.insert (Channel.ofProperty r.property) d
  | _, _ => channels

namespace Binding

theorem edit_of_ok {r : Binding} {mark : SceneMark} {p : SceneMark.Pipeline} {d : ChannelDef}
    (check : mark.checkPipeline r.dataset = .ok p) (decode : r.field.channelDef = .ok d)
    (channels : Table Channel ChannelDef) :
    r.edit mark channels = channels.insert r.channel d := by
  simp only [edit, check, decode]
  rfl

theorem edit_of_rejected {r : Binding} {mark : SceneMark} {f : Failure}
    (check : mark.checkPipeline r.dataset = .error f) (channels : Table Channel ChannelDef) :
    r.edit mark channels = channels := by
  simp only [edit, check]

theorem edit_of_undecoded {r : Binding} {mark : SceneMark} {f : Failure}
    (decode : r.field.channelDef = .error f) (channels : Table Channel ChannelDef) :
    r.edit mark channels = channels := by
  simp only [edit, decode]
  cases mark.checkPipeline r.dataset <;> rfl

end Binding

namespace Visit

variable {σ ω : Type}

/-- The shape that a call can give to the sketch of a mark. Only bindings can, and only if they find
the mark with a type that has a shape. -/
def shape? (host : Host ω) (m : MarkId) (x : Visit σ ω) : Option Shape :=
  match x.request with
  | .bind _ r =>
    if r.mark = m then (host.mark? x.start.world m).bind fun mark => Shape.ofMarkType? mark.type
    else none
  | _ => none

def edit (host : Host ω) (m : MarkId) (x : Visit σ ω) (channels : Table Channel ChannelDef) :
    Table Channel ChannelDef :=
  match x.request with
  | .bind _ r =>
    if r.mark = m then
      match host.mark? x.start.world m with
      | some mark => r.edit mark channels
      | none => channels
    else channels
  | .unbind n property => if n = m then channels.erase (Channel.ofProperty property) else channels
  | _ => channels

/-- How calls keep up the sketch of a mark. -/
def upkeep (host : Host ω) (m : MarkId) : Upkeep (Visit σ ω) Shape Sketch where
  forgets x := x.request.forgets m
  asks? x := x.shape? host m
  make? k := some (Sketch.ofShape k)
  edit x s := { s with encoding := x.edit host m s.encoding }

theorem act_of_not_concerns {host : Host ω} {m : MarkId} {x : Visit σ ω}
    (h : x.request.concerns m = false) (s : Option Sketch) : (upkeep host m).act s x = s := by
  obtain ⟨w, q⟩ := x
  cases q with
  | bind datasets r =>
      have other : r.mark ≠ m := beq_eq_false_iff_ne.1 h
      have same : (upkeep host m).edit ⟨w, .bind datasets r⟩ = id := by
        simp only [upkeep, edit, if_neg other]
        rfl
      exact Upkeep.act_of_idle rfl (if_neg other) same
  | unbind n property =>
      have other : n ≠ m := beq_eq_false_iff_ne.1 h
      have same : (upkeep host m).edit (⟨w, .unbind n property⟩ : Visit σ ω) = id := by
        simp only [upkeep, edit, if_neg other]
        rfl
      exact Upkeep.act_of_idle rfl rfl same
  | evict n => exact Upkeep.act_of_idle h rfl rfl
  | reset => cases h

/-- The calls since a mark was last forgotten. -/
def sinceForgotten (m : MarkId) (xs : List (Visit σ ω)) : List (Visit σ ω) :=
  Upkeep.sinceForgotten (fun x => x.request.forgets m) xs

/-- The channels of a mark after calls, one after another. -/
def replay (host : Host ω) (m : MarkId) (xs : List (Visit σ ω)) : Table Channel ChannelDef :=
  xs.foldl (fun channels x => x.edit host m channels) ∅

end Visit

namespace Binder

variable {σ ω : Type}

/-! ## Calls act like the machine -/

/-- A binding leaves the book alone, or it puts in the sketch with its channel set. -/
theorem Course.book_eq {b : Binder σ ω} {datasets : Dataset.Cache} {r : Binding}
    {w : Workspace σ ω} {o : Outcome (Workspace σ ω) BindEvent Unit}
    (h : Course b datasets r w o) :
    (∃ f, b.opening r w = .error f ∧ o.state.book = w.book) ∨
      ∃ mark s i, b.opening r w = .ok (mark, s) ∧
        o.state.book = w.book.setBoth r.mark { s with encoding := r.edit mark s.encoding } i := by
  cases h with
  | unopened opens ends => exact .inl ⟨_, opens, congrArg (·.state.book) ends⟩
  | @rejected mark s f opens check account =>
      refine .inr ⟨mark, s, w.book.identitiesFor r.mark, opens, ?_⟩
      rw [Binding.edit_of_rejected check]
      exact account.book_eq
  | @undecoded mark s p f opens check decode account =>
      refine .inr ⟨mark, s, w.book.identitiesFor r.mark, opens, ?_⟩
      rw [Binding.edit_of_undecoded decode]
      exact account.book_eq
  | @uncompiled mark s p d f opens check decode _ account =>
      refine .inr ⟨mark, s, w.book.identitiesFor r.mark, opens, ?_⟩
      rw [Binding.edit_of_ok check decode]
      exact account.book_eq
  | @extracted mark s p d c earlier last opens check decode _ _ account =>
      refine .inr ⟨mark, s, (b.report last).envelope.identities, opens, ?_⟩
      rw [Binding.edit_of_ok check decode]
      exact account.book_eq

variable (b : Binder σ ω)

theorem sketch?_bind (datasets : Dataset.Cache) (r : Binding) (w : Workspace σ ω) :
    ((b.bind datasets r).run w).state.book.sketch? r.mark =
      (Visit.upkeep b.host r.mark).act (w.book.sketch? r.mark) ⟨w, .bind datasets r⟩ := by
  rw [Upkeep.act_of_stays rfl]
  simp only [Visit.upkeep, Visit.shape?, Visit.edit, if_pos]
  rcases (b.course datasets r w).book_eq with ⟨f, opens, book⟩ | ⟨mark, s, i, opens, book⟩
  · -- Without a mark no channel is edited; without a shape there is no sketch to edit.
    rw [book]
    rcases of_opening_error opens with missing | ⟨mark, found, new, unknown⟩
    · rw [missing, Option.bind_none, Option.bind_none, Option.or_none]
      exact Option.map_id'.symm
    · rw [found, new, Option.bind_some, unknown]
      rfl
  · obtain ⟨found, sketch⟩ := opening_eq_ok_iff.1 opens
    rw [book, Sketchbook.sketch?_setBoth_self, found]
    rcases Sketchbook.sketchFor_eq_ok_iff.1 sketch with old | ⟨new, k, known, rfl⟩
    · rw [old]
      rfl
    · rw [new]
      simp [known]

theorem entry_of_not_concerns (x : Visit σ ω) {m : MarkId}
    (h : x.request.concerns m = false) :
    (b.outcome x).state.book.sketch? m = x.start.book.sketch? m ∧
      (b.outcome x).state.book.identities? m = x.start.book.identities? m := by
  obtain ⟨w, q⟩ := x
  cases q with
  | reset => cases h
  | bind datasets r =>
      have other : m ≠ r.mark := (beq_eq_false_iff_ne.1 h).symm
      show ((b.bind datasets r).run w).state.book.sketch? m = _ ∧
        ((b.bind datasets r).run w).state.book.identities? m = _
      rcases (b.course datasets r w).book_eq with ⟨f, -, book⟩ | ⟨mark, s, i, -, book⟩
      · rw [book]
        exact ⟨rfl, rfl⟩
      · rw [book]
        exact ⟨Sketchbook.sketch?_setBoth_of_ne _ _ _ other,
          Sketchbook.identities?_setBoth_of_ne _ _ _ other⟩
  | unbind n property =>
      have other : m ≠ n := (beq_eq_false_iff_ne.1 h).symm
      have book := (b.account_unbind w n property).book_eq
      show ((b.unbind n property).run w).state.book.sketch? m = _ ∧
        ((b.unbind n property).run w).state.book.identities? m = _
      rw [book]
      exact ⟨Sketchbook.sketch?_editSketch_of_ne _ _ other, Sketchbook.identities?_editSketch ..⟩
  | evict n =>
      have other : m ≠ n := (beq_eq_false_iff_ne.1 h).symm
      exact ⟨Sketchbook.sketch?_evict_of_ne _ other, Sketchbook.identities?_evict_of_ne _ other⟩

/-- **Calls act like the machine.** -/
theorem sketch?_outcome (x : Visit σ ω) (m : MarkId) :
    (b.outcome x).state.book.sketch? m =
      (Visit.upkeep b.host m).act (x.start.book.sketch? m) x := by
  cases h : x.request.concerns m with
  | false => rw [(b.entry_of_not_concerns x h).1, Visit.act_of_not_concerns h]
  | true =>
      obtain ⟨w, q⟩ := x
      cases q with
      | reset => rfl
      | bind datasets r =>
          obtain rfl : r.mark = m := beq_iff_eq.1 h
          exact b.sketch?_bind datasets r w
      | unbind n property =>
          obtain rfl : n = m := beq_iff_eq.1 h
          have book := (b.account_unbind w n property).book_eq
          show ((b.unbind n property).run w).state.book.sketch? n = _
          rw [book, Sketchbook.sketch?_editSketch_self, Upkeep.act_of_silent rfl rfl]
          simp only [Visit.upkeep, Visit.edit, if_pos]
          rfl
      | evict n =>
          obtain rfl : n = m := beq_iff_eq.1 h
          rw [Upkeep.act_of_forgets (beq_self_eq_true n)]
          exact Sketchbook.sketch?_evict_self ..

/-- A call keeps a mark's sketch and identities together. -/
theorem paired_outcome (x : Visit σ ω) {m : MarkId}
    (h : (x.start.book.sketch? m).isSome = (x.start.book.identities? m).isSome) :
    ((b.outcome x).state.book.sketch? m).isSome =
      ((b.outcome x).state.book.identities? m).isSome := by
  cases concerns : x.request.concerns m with
  | false =>
      obtain ⟨sketch, identities⟩ := b.entry_of_not_concerns x concerns
      rw [sketch, identities, h]
  | true =>
      obtain ⟨w, q⟩ := x
      cases q with
      | reset => rfl
      | bind datasets r =>
          obtain rfl : r.mark = m := beq_iff_eq.1 concerns
          show (((b.bind datasets r).run w).state.book.sketch? r.mark).isSome =
            (((b.bind datasets r).run w).state.book.identities? r.mark).isSome
          rcases (b.course datasets r w).book_eq with ⟨f, -, book⟩ | ⟨mark, s, i, -, book⟩
          · rw [book, h]
          · rw [book, Sketchbook.sketch?_setBoth_self, Sketchbook.identities?_setBoth_self]
            rfl
      | unbind n property =>
          obtain rfl : n = m := beq_iff_eq.1 concerns
          have book := (b.account_unbind w n property).book_eq
          show (((b.unbind n property).run w).state.book.sketch? n).isSome =
            (((b.unbind n property).run w).state.book.identities? n).isSome
          rw [book, Sketchbook.sketch?_editSketch_self, Sketchbook.identities?_editSketch,
            Option.isSome_map, h]
      | evict n =>
          obtain rfl : n = m := beq_iff_eq.1 concerns
          show ((w.book.evict n).sketch? n).isSome = ((w.book.evict n).identities? n).isSome
          rw [Sketchbook.sketch?_evict_self, Sketchbook.identities?_evict_self]
          rfl

/-! ## Whole sessions -/

theorem sketch?_after (m : MarkId) (turns : List (Turn ω)) : ∀ w : Workspace σ ω,
    (b.after w turns).book.sketch? m =
      (b.visits w turns).foldl (Visit.upkeep b.host m).act (w.book.sketch? m) := by
  induction turns with
  | nil =>
      intro w
      rfl
  | cons t turns ih =>
      intro w
      cases t with
      | change f => exact ih _
      | call q =>
          show (b.after (b.outcome ⟨w, q⟩).state turns).book.sketch? m =
            (b.visits _ turns).foldl _ ((Visit.upkeep b.host m).act (w.book.sketch? m) ⟨w, q⟩)
          rw [ih, sketch?_outcome]
          rfl

theorem paired_after (m : MarkId) (turns : List (Turn ω)) (w : Workspace σ ω)
    (h : (w.book.sketch? m).isSome = (w.book.identities? m).isSome) :
    ((b.after w turns).book.sketch? m).isSome = ((b.after w turns).book.identities? m).isSome := by
  refine (b.invariant (P := fun w => (w.book.sketch? m).isSome = (w.book.identities? m).isSome)
    ?_ turns w h).1
  intro w t paired
  cases t with
  | change f => exact paired
  | call q => exact b.paired_outcome ⟨w, q⟩ paired

end Binder

/-! ## Replays of sketches -/

namespace Visit

variable {σ ω : Type} {host : Host ω} {m : MarkId}

theorem answered (xs : List (Visit σ ω)) (s : Option Sketch) : (upkeep host m).Answered s xs :=
  Upkeep.answered_of_total (fun k => ⟨Sketch.ofShape k, rfl⟩) xs s

theorem foldl_edit (xs : List (Visit σ ω)) : ∀ s : Sketch,
    xs.foldl (fun s x => (upkeep host m).edit x s) s =
      { s with encoding := xs.foldl (fun channels x => x.edit host m channels) s.encoding } := by
  induction xs with
  | nil => exact fun _ => rfl
  | cons x xs ih => exact fun s => ih ((upkeep host m).edit x s)

/-- The replay of a sketch is that of its channels. -/
theorem replay_of_isReplay {recent : List (Visit σ ω)} {s : Sketch}
    (h : (upkeep host m).IsReplay recent (some s)) :
    ∃ before x later k, recent = before ++ x :: later ∧
      (∀ y ∈ before, y.shape? host m = none) ∧ x.shape? host m = some k ∧
      s = { Sketch.ofShape k with encoding := replay host m (x :: later) } := by
  obtain ⟨before, x, later, k, fresh, whole, silent, asks, makes, rfl⟩ := h
  obtain rfl := Option.some.inj makes
  exact ⟨before, x, later, k, whole, silent, asks, foldl_edit (x :: later) (Sketch.ofShape k)⟩

end Visit

/-- **Sketches are replays.** In every session that starts with an empty book, with whatever
compiler, extractor and application:

- a mark has a sketch exactly if it has identities, and exactly if since it was last forgotten a
  binding of it has found it with a type that has a shape;
- the sketch is then that of the shape found by the first such binding, with the channels that are
  left by the calls from there on;
- a call for other marks leaves the mark's sketch and identities as they are. -/
theorem Binder.sketch_is_replay {σ ω : Type} (b : Binder σ ω) (tools : σ) (world : ω)
    (turns : List (Turn ω)) (m : MarkId) :
    let w : Workspace σ ω := ⟨Sketchbook.empty, tools, world⟩
    let book := (b.after w turns).book
    let recent := Visit.sinceForgotten m (b.visits w turns)
    ((book.sketch? m).isSome ↔ (book.identities? m).isSome) ∧
    ((book.sketch? m).isSome ↔ ∃ x ∈ recent, (x.shape? b.host m).isSome) ∧
    (∀ s, book.sketch? m = some s →
      ∃ before x later k, recent = before ++ x :: later ∧
        (∀ y ∈ before, y.shape? b.host m = none) ∧ x.shape? b.host m = some k ∧
        s = { Sketch.ofShape k with encoding := Visit.replay b.host m (x :: later) }) ∧
    ∀ x ∈ b.visits w turns, x.request.concerns m = false →
      (b.outcome x).state.book.sketch? m = x.start.book.sketch? m ∧
        (b.outcome x).state.book.identities? m = x.start.book.identities? m := by
  intro w book recent
  have whole : (Visit.upkeep b.host m).IsReplay recent (book.sketch? m) := by
    rw [b.sketch?_after m turns w]
    exact Upkeep.isReplay_sinceForgotten (Visit.answered (b.visits w turns) none)
  have paired := b.paired_after m turns w rfl
  refine ⟨?_, whole.isSome_iff, ?_, fun x _ => b.entry_of_not_concerns x⟩
  · rw [paired]
  · intro s hs
    rw [hs] at whole
    exact Visit.replay_of_isReplay whole

end ChartBinding
