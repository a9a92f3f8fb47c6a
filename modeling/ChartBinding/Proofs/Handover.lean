import ChartBinding.Proofs.Registration
import ChartBinding.Proofs.Replay

/-!
# What the stages are given

The envelope that the first stage of a binding is given says four things at once: what the
application has for the mark, what the book has for it, what the compiler was given, and what it
gave back. Nothing in it is stale. The mark is shown as linked, the sketch with all channels that it
has by then, and rows, size and fill are those of this very call, since a sketch of the book never
has any.

The call alone tells how the envelope is made (`Course.of_entered`); the session tells where the
sketch and the identities come from (`Binder.isReplay_outcome`, `Binder.identities?_start`).
-/

namespace ChartBinding

variable {σ ω : Type}

/-- A call that can make a sketch finds its mark with a type of that shape. -/
theorem Visit.ofMarkType?_of_shape? {host : Host ω} {m : MarkId} {x : Visit σ ω} {k : Shape}
    (makes : x.shape? host m = some k) {mark : SceneMark}
    (found : host.mark? x.start.world m = some mark) : Shape.ofMarkType? mark.type = some k := by
  obtain ⟨w, q⟩ := x
  cases q with
  | bind datasets r =>
      by_cases own : r.mark = m
      · simp only [shape?, if_pos own, found, Option.bind_some] at makes
        exact makes
      · simp only [shape?, if_neg own] at makes
        cases makes
  | unbind _ _ => cases makes
  | evict _ => cases makes
  | reset => cases makes

/-! ## The first stage -/

theorem Trace.mem_stages {t : Trace} {s : Stage} {e : Envelope} {link : Option Link}
    (h : .entered s e link ∈ t) : s ∈ stages t :=
  List.mem_filterMap.2 ⟨_, h, rfl⟩

theorem Trace.mem_of_mem_batched {ds : Trace} {s : Stage} {e : Envelope} {link : Option Link}
    (h : .entered s e link ∈ batched ds) : .entered s e link ∈ ds := by
  simpa [batched] using h

theorem Binding.stages_linkDeeds (r : Binding) (mark : SceneMark) :
    Trace.stages (r.linkDeeds mark) = [] := by
  unfold linkDeeds
  cases mark.link <;> rfl

namespace Binder

theorem of_entered_performed {b : Binder σ ω} {id : MarkId} {p : Performance σ ω} {s : Stage}
    {e : Envelope} {link : Option Link} (h : .entered s e link ∈ b.performed id p) :
    s = p.stage ∧ e = p.envelope := by
  rcases List.mem_cons.1 h with same | dispatched
  · cases same
    exact ⟨rfl, rfl⟩
  · obtain ⟨_, -, other⟩ := List.mem_map.1 dispatched
    cases other

/-- Each stage is performed once, so a stage that is not among the later ones is the first. -/
theorem eq_of_mem_performances {b : Binder σ ω} {p q : Performance σ ω} {rest : List Stage}
    (h : q ∈ b.performances p rest) (other : q.stage ∉ rest) : q = p := by
  obtain ⟨later, performs⟩ := b.performances_eq_cons p rest
  have stages := b.stages_performances rest p
  rw [performs] at h stages
  rcases List.mem_cons.1 h with rfl | h
  · rfl
  · have among := (List.cons_prefix_cons.1 stages).2.subset (List.mem_map_of_mem h)
    exact absurd among other

/-- An envelope that the stage `data` is given comes from a compilation that went well. -/
theorem Course.of_entered {b : Binder σ ω} {datasets : Dataset.Cache} {r : Binding}
    {w : Workspace σ ω} {o : Outcome (Workspace σ ω) BindEvent Unit} {e : Envelope}
    {link : Option Link} (h : Course b datasets r w o) (handed : .entered .data e link ∈ o.events) :
    ∃ mark s p d c, b.opening r w = .ok (mark, s) ∧ mark.checkPipeline r.dataset = .ok p ∧
      r.field.channelDef = .ok d ∧ b.compiler (b.input datasets r s d) = .ok c ∧
      e = r.envelope mark ⟨b.input datasets r s d, c⟩ (w.book.identitiesFor r.mark) ∧
      Trace.sketches o.events = [b.input datasets r s d] ∧
      o.state.book.sketch? r.mark = some (s.encode r.channel d) := by
  have entered := Trace.mem_stages handed
  -- Only in the last course any stage was entered.
  cases h with
  | unopened opens ends =>
      rw [ends] at entered
      cases entered
  | rejected opens check account =>
      rw [account.stages] at entered
      cases entered
  | @undecoded mark _ _ _ opens check decode account =>
      rw [account.stages, Trace.stages_batched, r.stages_linkDeeds mark] at entered
      cases entered
  | @uncompiled mark _ _ _ _ opens check decode compiles account =>
      rw [account.stages, Trace.stages_batched, Trace.stages_append,
        r.stages_linkDeeds mark] at entered
      cases entered
  | @extracted mark s p d c earlier last opens check decode compiles performs account =>
      have sketches : Trace.sketches o.events = [b.input datasets r s d] := by
        rw [account.sketches, Trace.sketches_batched, Trace.sketches_append, Trace.sketches_append,
          r.sketches_linkDeeds, sketches_flatMap_performed]
        rfl
      have sketch : o.state.book.sketch? r.mark = some (s.encode r.channel d) := by
        rw [account.book_eq, Sketchbook.sketch?_setBoth_self]
      have deed : .entered .data e link ∈ Trace.deeds o.events := List.mem_filter.2 ⟨handed, rfl⟩
      rw [account.deeds] at deed
      rcases List.mem_append.1 (Trace.mem_of_mem_batched deed) with before | staged
      · have none := Trace.mem_stages before
        rw [Trace.stages_append, r.stages_linkDeeds mark] at none
        cases none
      · obtain ⟨q, among, performed⟩ := List.mem_flatMap.1 staged
        obtain ⟨stage, rfl⟩ := of_entered_performed performed
        rw [← performs] at among
        obtain rfl := eq_of_mem_performances among (by rw [← stage]; decide)
        exact ⟨mark, s, p, d, c, opens, check, decode, compiles, rfl, sketches, sketch⟩

/-! ## What earlier calls left -/

variable (b : Binder σ ω)

/-- Calls for other marks leave the identities of a mark. -/
theorem identities?_after (m : MarkId) (turns : List (Turn ω)) : ∀ {w : Workspace σ ω},
    (∀ x ∈ b.visits w turns, x.request.concerns m = false) →
      (b.after w turns).book.identities? m = w.book.identities? m := by
  induction turns with
  | nil =>
      intro w _
      rfl
  | cons t turns ih =>
      intro w others
      cases t with
      | change f => exact ih others
      | call q =>
          have first := b.entry_of_not_concerns ⟨w, q⟩ (others _ List.mem_cons_self)
          exact (ih fun x hx => others x (List.mem_cons_of_mem _ hx)).trans first.2

theorem identities?_first {w : Workspace σ ω} {turns : List (Turn ω)}
    {earlier later : List (Visit σ ω)} {x : Visit σ ω}
    (cut : b.visits w turns = earlier ++ x :: later) {m : MarkId}
    (others : ∀ y ∈ earlier, y.request.concerns m = false) :
    x.start.book.identities? m = w.book.identities? m := by
  obtain ⟨before, _, -, visits, start, -⟩ := b.visits_cut turns cut
  rw [← start, b.identities?_after m before (visits ▸ others)]

/-- A call finds the identities of a mark as the last call for that mark has left them. -/
theorem identities?_start {w : Workspace σ ω} {turns : List (Turn ω)}
    {before between later : List (Visit σ ω)} {x y : Visit σ ω}
    (cut : b.visits w turns = before ++ y :: (between ++ x :: later)) {m : MarkId}
    (others : ∀ z ∈ between, z.request.concerns m = false) :
    x.start.book.identities? m = (b.outcome y).state.book.identities? m := by
  obtain ⟨_, behind, -, -, -, rest⟩ := b.visits_cut turns cut
  exact b.identities?_first rest others

/-- The sketch that a call leaves is the replay of the calls up to that one. -/
theorem isReplay_outcome {tools : σ} {world : ω} {turns : List (Turn ω)}
    {earlier later : List (Visit σ ω)} {x : Visit σ ω}
    (cut : b.visits ⟨Sketchbook.empty, tools, world⟩ turns = earlier ++ x :: later) {m : MarkId}
    (stays : x.request.forgets m = false) :
    (Visit.upkeep b.host m).IsReplay (Visit.sinceForgotten m earlier ++ [x])
      ((b.outcome x).state.book.sketch? m) := by
  obtain ⟨before, _, -, visits, start, -⟩ := b.visits_cut turns cut
  have found : (Visit.upkeep b.host m).IsReplay (Visit.sinceForgotten m earlier)
      (x.start.book.sketch? m) := by
    rw [← start, sketch?_after, visits]
    exact Upkeep.isReplay_sinceForgotten (Visit.answered earlier none)
  have kept : Upkeep.push (Visit.upkeep b.host m).forgets (Visit.sinceForgotten m earlier) x =
      Visit.sinceForgotten m earlier ++ [x] :=
    if_neg (Bool.eq_false_iff.1 stays)
  rw [sketch?_outcome, ← kept]
  exact found.act (Visit.answered [x] _).1

/-! ## The envelope -/

/-- What the stages are given in the call `x`, a binding that comes behind the calls `earlier`. -/
structure HandedOver (earlier : List (Visit σ ω)) (x : Visit σ ω) (datasets : Dataset.Cache)
    (r : Binding) (e : Envelope) : Prop where
  /-- The mark is as the application has it, but driven by the bound data set. -/
  mark : ∃ mark, b.host.mark? x.start.world r.mark = some mark ∧ e.markType = mark.type ∧
    e.mark = { mark with link := some (Link.toDataset r.dataset) }
  call : e.markId = r.mark ∧ e.property = r.property ∧
    e.channel = Channel.ofProperty r.property ∧ e.dataset = r.dataset
  /-- The input is what the compiler was given, and the output what it gave back. -/
  compiled : Trace.sketches (b.outcome x).events = [e.input] ∧ b.compiler e.input = .ok e.output
  /-- The input is the sketch of the book, with rows, size and fill added. -/
  sketch : ∃ s, (b.outcome x).state.book.sketch? r.mark = some s ∧
    s.data.values = none ∧ s.config.cell = none ∧ s.config.mark = none ∧
    e.input = { s with
      data := { s.data with values := datasets.output r.dataset }
      config :=
        { s.config with
          cell := some b.settings.cell
          mark :=
            if b.settings.forcesFill r.property then some Sketch.MarkStyle.solid else none } }
  /-- It has the channels that the mark had, and that of the binding. -/
  channels : ∃ d, r.field.channelDef = .ok d ∧ e.input.encoding =
    (((x.start.book.sketch? r.mark).map Sketch.encoding).getD ∅).insert e.channel d
  /-- Its channels are the replay of the calls from the one that made the sketch. Its shape is that
  of the type that the mark had then, which may not be the type that it has now. -/
  replayed : ∃ before first later,
    Visit.sinceForgotten r.mark earlier ++ [x] = before ++ first :: later ∧
      (∀ y ∈ before, y.shape? b.host r.mark = none) ∧
      first.shape? b.host r.mark = some e.input.shape ∧
      e.input.encoding = Visit.replay b.host r.mark (first :: later) ∧
      ∀ mark, b.host.mark? first.start.world r.mark = some mark → mark.type = e.markType →
        Shape.ofMarkType? e.markType = some e.input.shape
  /-- The identities are as the last call for the mark has left them. -/
  left : ∀ before y between, earlier = before ++ y :: between →
    (∀ z ∈ between, z.request.concerns r.mark = false) →
      e.identities = (b.outcome y).state.book.identitiesFor r.mark
  /-- A mark without earlier calls has no identities. -/
  fresh : (∀ y ∈ earlier, y.request.concerns r.mark = false) → e.identities = Identities.empty

/-- **Nothing stale is handed over.** In every session that starts with an empty book, with whatever
compiler, extractor and application, whenever a binding comes to its first stage. -/
theorem nothing_stale (tools : σ) (world : ω) (turns : List (Turn ω))
    {earlier later : List (Visit σ ω)} {x : Visit σ ω} {datasets : Dataset.Cache} {r : Binding}
    {e : Envelope} {link : Option Link}
    (cut : b.visits ⟨Sketchbook.empty, tools, world⟩ turns = earlier ++ x :: later)
    (asked : x.request = .bind datasets r)
    (handed : .entered .data e link ∈ (b.outcome x).events) :
    b.HandedOver earlier x datasets r e := by
  obtain ⟨w, q⟩ := x
  obtain rfl : q = .bind datasets r := asked
  obtain ⟨mark, s, p, d, c, opens, check, decode, compiles, rfl, sketches, sketch⟩ :=
    (b.course datasets r w).of_entered handed
  obtain ⟨found, opened⟩ := opening_eq_ok_iff.1 opens
  have replay := b.isReplay_outcome cut (m := r.mark) rfl
  rw [outcome, handle, sketch] at replay
  obtain ⟨before, first, rest, k, recent, unmade, makes, made⟩ := Visit.replay_of_isReplay replay
  refine ⟨⟨mark, found, rfl, rfl⟩, ⟨rfl, rfl, rfl, rfl⟩, ⟨sketches, compiles⟩, ?_, ?_, ?_, ?_, ?_⟩
  · refine ⟨s.encode r.channel d, sketch, congrArg (·.data.values) made,
      congrArg (·.config.cell) made, congrArg (·.config.mark) made, ?_⟩
    show (s.encode r.channel d).prepared r.property _ _ = _
    rw [made]
    rfl
  · refine ⟨d, decode, ?_⟩
    rw [← Sketchbook.encoding_of_sketchFor opened]
    rfl
  · have drawn : (b.input datasets r s d).shape = k := congrArg Sketch.shape made
    refine ⟨before, first, rest, recent, unmade, ?_, congrArg Sketch.encoding made, ?_⟩
    · exact makes.trans (congrArg some drawn.symm)
    · intro then_ found_then same
      have type : then_.type = mark.type := same
      show Shape.ofMarkType? mark.type = some (b.input datasets r s d).shape
      rw [drawn, ← type]
      exact Visit.ofMarkType?_of_shape? makes found_then
  · rintro before' y between rfl others
    rw [List.append_assoc] at cut
    exact congrArg (·.getD Identities.empty) (b.identities?_start cut others)
  · intro others
    exact congrArg (·.getD Identities.empty) (b.identities?_first cut others)

theorem nothing_stale_second_binding :
    let b := registering Settings.default PlainCompiler.compile
    let w : Workspace Registrar.Counter Scene :=
      ⟨Sketchbook.empty, 0, Table.ofList [(7, ⟨7, "rect", none, ∅⟩)]⟩
    let datasets := Dataset.Cache.new fun _ => []
    let r : Binding := ⟨1, Field.plain "kind" .nominal, 7, "fill"⟩
    let turns : List (Turn Scene) :=
      [.call (.bind datasets ⟨1, Field.plain "price" .quantitative, 7, "x"⟩),
        .call (.bind datasets r)]
    ∃ y x e link, b.visits w turns = [y] ++ x :: [] ∧ x.request = .bind datasets r ∧
      .entered .data e link ∈ (b.outcome x).events ∧ b.HandedOver [y] x datasets r e := by
  intro b w datasets r turns
  suffices given : ∃ y x e link, b.visits w turns = [y] ++ x :: [] ∧
      x.request = .bind datasets r ∧ .entered .data e link ∈ (b.outcome x).events by
    obtain ⟨y, x, e, link, cut, asked, handed⟩ := given
    exact ⟨y, x, e, link, cut, asked, handed, b.nothing_stale 0 w.world turns cut asked handed⟩
  revert turns r datasets w b
  exact ⟨_, _, _, _, rfl, rfl, List.mem_of_getElem? (i := 3) rfl⟩

end Binder

end ChartBinding
