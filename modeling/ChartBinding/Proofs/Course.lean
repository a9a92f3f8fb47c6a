import ChartBinding.Proofs.Stages

/-!
# The course of a binding

A binding can end in five ways: no sketch could be opened, the mark is driven by something else, the
name of the field tells no derivation, the compiler refused the sketch, or the stages ran. `Course`
lists them, each with what had been done by then; `Binder.course` says that there is no sixth.
Whatever is to be shown of a binding is shown case by case from here. The other calls have one
course each.
-/

namespace ChartBinding

namespace SceneMark

/-! ## Who drives a mark -/

/-- A mark may be bound to a data set if it is driven by that one or by nothing. -/
theorem link_of_checkPipeline {mark : SceneMark} {dataset : DatasetId} {p : Pipeline}
    (h : mark.checkPipeline dataset = .ok p) :
    p = .missing ∧ mark.link = none ∨
      p = .established ∧ mark.link = some (Link.toDataset dataset) := by
  unfold checkPipeline pipeline at h
  cases hl : mark.link with
  | none =>
      rw [hl] at h
      cases h
      exact .inl ⟨rfl, rfl⟩
  | some l =>
      obtain ⟨data, leader⟩ := l
      rw [hl] at h
      cases leader with
      | some leader => cases h
      | none =>
          by_cases hd : data = some dataset
          · simp only [if_pos hd] at h
            cases h
            exact .inr ⟨rfl, by rw [hd, Link.toDataset]⟩
          · simp only [if_neg hd] at h
            cases h

theorem checkPipeline_of_ne {mark : SceneMark} {dataset : DatasetId} {l : Link}
    (h : mark.link = some l) (ne : l ≠ Link.toDataset dataset) :
    ∃ message, mark.checkPipeline dataset = .error ⟨.pipelineMismatch message, []⟩ := by
  cases hc : mark.checkPipeline dataset with
  | ok p =>
      rcases link_of_checkPipeline hc with ⟨-, hl⟩ | ⟨-, hl⟩
      · rw [h] at hl
        cases hl
      · rw [h] at hl
        exact absurd (Option.some.inj hl) ne
  | error f =>
      unfold checkPipeline at hc
      cases hp : mark.pipeline dataset with
      | ok p =>
          rw [hp] at hc
          cases hc
      | error c =>
          rw [hp] at hc
          cases hc
          exact ⟨c.message, rfl⟩

end SceneMark

variable {σ ω : Type}

/-! ## Steps before the stages -/

namespace Binding

def linkDeeds (r : Binding) (mark : SceneMark) : Trace :=
  match mark.link with
  | none => [.dispatched (Action.link r.mark r.link)]
  | some _ => []

theorem sketches_linkDeeds (r : Binding) (mark : SceneMark) :
    Trace.sketches (r.linkDeeds mark) = [] := by
  unfold linkDeeds
  cases mark.link <;> rfl

def envelope (r : Binding) (mark : SceneMark) (c : Compiled) (i : Identities) : Envelope :=
  { input := c.input
    output := c.output
    identities := i
    mark := { mark with link := some r.link }
    markId := r.mark
    markType := mark.type
    property := r.property
    channel := r.channel
    dataset := r.dataset }

end Binding

namespace Binder

/-- The mark to be bound and its sketch, as they are when the binding begins. -/
def opening (b : Binder σ ω) (r : Binding) (w : Workspace σ ω) : Attempt (SceneMark × Sketch) :=
  match b.host.mark? w.world r.mark with
  | none => .error (.ofCause (.internal ("No mark with id " ++ toString r.mark)))
  | some mark => (w.book.sketchFor r.mark mark.type).map fun s => (mark, s)

/-- What is handed to the compiler once the channel has been set to `d`. -/
def input (b : Binder σ ω) (datasets : Dataset.Cache) (r : Binding) (s : Sketch)
    (d : ChannelDef) : Sketch :=
  (s.encode r.channel d).prepared r.property (datasets.output r.dataset) b.settings

/-- What the stage `data` is given after a compilation. -/
def first (b : Binder σ ω) (r : Binding) (w : Workspace σ ω) (mark : SceneMark) (c : Compiled) :
    Performance σ ω :=
  { stage := .data
    tools := w.tools
    world := b.host.after (b.host.dispatch w.world .startBatch) (Trace.actions (r.linkDeeds mark))
    envelope := r.envelope mark c (w.book.identitiesFor r.mark) }

theorem opening_eq_ok_iff {b : Binder σ ω} {r : Binding} {w : Workspace σ ω} {mark : SceneMark}
    {s : Sketch} : b.opening r w = .ok (mark, s) ↔
      b.host.mark? w.world r.mark = some mark ∧ w.book.sketchFor r.mark mark.type = .ok s := by
  unfold opening
  cases b.host.mark? w.world r.mark with
  | none => simp
  | some m =>
      constructor
      · intro h
        cases hs : w.book.sketchFor r.mark m.type with
        | error f =>
            simp only [hs, Except.map] at h
            cases h
        | ok s' =>
            simp only [hs, Except.map] at h
            cases h
            exact ⟨rfl, hs⟩
      · rintro ⟨hm, hs⟩
        cases hm
        exact congrArg (Except.map fun s => (mark, s)) hs

/-- A binding that cannot be opened finds no mark, or a mark without sketch of a type without
shape. -/
theorem of_opening_error {b : Binder σ ω} {r : Binding} {w : Workspace σ ω} {f : Failure}
    (h : b.opening r w = .error f) :
    b.host.mark? w.world r.mark = none ∨
      ∃ mark, b.host.mark? w.world r.mark = some mark ∧ w.book.sketch? r.mark = none ∧
        Shape.ofMarkType? mark.type = none := by
  unfold opening at h
  cases found : b.host.mark? w.world r.mark with
  | none => exact .inl rfl
  | some mark =>
      simp only [found] at h
      cases sketch : w.book.sketchFor r.mark mark.type with
      | error f' => exact .inr ⟨mark, rfl, Sketchbook.of_sketchFor_error sketch⟩
      | ok s =>
          simp only [sketch, Except.map] at h
          cases h

theorem account_openSketch (b : Binder σ ω) (w : Workspace σ ω) (mark : SceneMark) (id : MarkId)
    {s : Sketch} (h : w.book.sketchFor id mark.type = .ok s) :
    b.Account w ((openSketch mark id : Job σ ω Sketch).run w)
      (w.book.setBoth id s (w.book.identitiesFor id)) w.tools [] (.ok s) := by
  unfold openSketch
  refine (Account.ofState b w).look ?_
  refine (Account.ofAttempt b w h).look ?_
  refine (Account.ofEdit b w _).andThen ?_
  rw [Sketchbook.openIdentities_setSketch]
  cases w.book.newShape? id mark.type with
  | none => exact Account.done b _ s
  | some shape => exact (Account.ofNote b _ _).andThen (Account.done b _ s)

theorem run_openSketch_of_error (w : Workspace σ ω) (mark : SceneMark) (id : MarkId)
    {f : Failure} (h : w.book.sketchFor id mark.type = .error f) :
    (openSketch mark id : Job σ ω Sketch).run w = ⟨w, [], .error f⟩ := by
  -- Without an account: the state is exactly the old one, not one that looks the same.
  unfold openSketch
  rw [Task.run_bind]
  simp only [Task.run_state]
  rw [h, Task.run_bind]
  rfl

theorem account_link (b : Binder σ ω) (w : Workspace σ ω) (r : Binding) (mark : SceneMark)
    {p : SceneMark.Pipeline} (h : mark.checkPipeline r.dataset = .ok p) :
    b.Account w ((b.link r mark).run w) w.book w.tools (r.linkDeeds mark)
      (.ok { mark with link := some r.link }) := by
  unfold link
  rw [h]
  rcases SceneMark.link_of_checkPipeline h with ⟨rfl, hl⟩ | ⟨rfl, hl⟩
  · have deeds : r.linkDeeds mark = [.dispatched (Action.link r.mark r.link)] := by
      rw [Binding.linkDeeds, hl]
    rw [deeds]
    exact (Account.ofNote b w _).look ((Account.ofDispatch b w _).andThen (Account.done b _ _))
  · have deeds : r.linkDeeds mark = [] := by
      rw [Binding.linkDeeds, hl]
    have same : { mark with link := some r.link } = mark := by
      rw [Binding.link, ← hl]
    rw [deeds, same]
    exact Account.done b w mark

theorem account_link_of_error (b : Binder σ ω) (w : Workspace σ ω) (r : Binding)
    (mark : SceneMark) {f : Failure} (h : mark.checkPipeline r.dataset = .error f) :
    b.Account w ((b.link r mark).run w) w.book w.tools [] (.error f) := by
  unfold link
  rw [h]
  exact (Account.ofNote b w _).look (Account.ofAttempt b w rfl)

/-- A compilation asks the data set for its rows; the compiler is called once. -/
theorem account_compile (b : Binder σ ω) (w : Workspace σ ω) (datasets : Dataset.Cache)
    (r : Binding) (s : Sketch) :
    b.Account w ((b.compile datasets r s).run w) w.book w.tools
      [.compiled (s.prepared r.property (datasets.output r.dataset) b.settings)]
      (s.compile r.property (datasets.output r.dataset) b.settings b.compiler) := by
  have asked : Trace.actions ((datasets.outputEvents r.dataset).map .consulted) = [] := by
    rw [← Trace.actions_deeds, Trace.deeds_consulted]
    rfl
  have consult := Account.ofEmit b w _ asked
  rw [Trace.deeds_consulted] at consult
  refine consult.look ((Account.ofNote b w _).look ?_)
  refine (Account.ofEmit b w [.compiled _] rfl).andThen ?_
  exact Account.ofAttempt b _ rfl

/-- The compilation of a binding, whose sketch has the channel set. -/
theorem account_compile_encoded (b : Binder σ ω) (w : Workspace σ ω) (datasets : Dataset.Cache)
    (r : Binding) (s : Sketch) (d : ChannelDef) :
    b.Account w ((b.compile datasets r (s.encode r.channel d)).run w) w.book w.tools
      [.compiled (b.input datasets r s d)]
      ((b.compiler (b.input datasets r s d)).map (Compiled.mk (b.input datasets r s d))) := by
  rw [input, ← Sketch.compile_eq_map]
  exact b.account_compile w datasets r (s.encode r.channel d)

/-! ## The five courses -/

/-- How a binding goes, and what it leaves. In every course but the first the mark has a sketch and
identities afterwards, and what was done is one batch. -/
inductive Course (b : Binder σ ω) (datasets : Dataset.Cache) (r : Binding) (w : Workspace σ ω)
    (o : Outcome (Workspace σ ω) BindEvent Unit) : Prop
  /-- There is no mark, or no sketch can be made for its type. -/
  | unopened {f : Failure} (opens : b.opening r w = .error f) (ends : o = ⟨w, [], .error f⟩)
  /-- Something else drives the mark. -/
  | rejected {mark : SceneMark} {s : Sketch} {f : Failure}
      (opens : b.opening r w = .ok (mark, s))
      (check : mark.checkPipeline r.dataset = .error f)
      (account : b.Account w o (w.book.setBoth r.mark s (w.book.identitiesFor r.mark)) w.tools
        (Trace.batched []) (.error f))
  /-- The name of the field does not tell how it was derived. -/
  | undecoded {mark : SceneMark} {s : Sketch} {p : SceneMark.Pipeline} {f : Failure}
      (opens : b.opening r w = .ok (mark, s))
      (check : mark.checkPipeline r.dataset = .ok p)
      (decode : r.field.channelDef = .error f)
      (account : b.Account w o (w.book.setBoth r.mark s (w.book.identitiesFor r.mark)) w.tools
        (Trace.batched (r.linkDeeds mark)) (.error f))
  /-- The compiler refused the sketch. -/
  | uncompiled {mark : SceneMark} {s : Sketch} {p : SceneMark.Pipeline} {d : ChannelDef}
      {f : Failure}
      (opens : b.opening r w = .ok (mark, s))
      (check : mark.checkPipeline r.dataset = .ok p)
      (decode : r.field.channelDef = .ok d)
      (compiles : b.compiler (b.input datasets r s d) = .error f)
      (account : b.Account w o
        (w.book.setBoth r.mark (s.encode r.channel d) (w.book.identitiesFor r.mark)) w.tools
        (Trace.batched (r.linkDeeds mark ++ [.compiled (b.input datasets r s d)])) (.error f))
  /-- The stages were performed, up to the first that failed if one did. -/
  | extracted {mark : SceneMark} {s : Sketch} {p : SceneMark.Pipeline} {d : ChannelDef}
      {c : Chart} {earlier : List (Performance σ ω)} {last : Performance σ ω}
      (opens : b.opening r w = .ok (mark, s))
      (check : mark.checkPipeline r.dataset = .ok p)
      (decode : r.field.channelDef = .ok d)
      (compiles : b.compiler (b.input datasets r s d) = .ok c)
      (performs : b.performances (b.first r w mark ⟨b.input datasets r s d, c⟩)
        [.scales, .marks, .guides] = earlier ++ [last])
      (account : b.Account w o
        (w.book.setBoth r.mark (s.encode r.channel d) (b.report last).envelope.identities)
        (b.report last).tools
        (Trace.batched (r.linkDeeds mark ++ [.compiled (b.input datasets r s d)]
          ++ (earlier ++ [last]).flatMap (b.performed r.mark)))
        (b.resultOf (earlier ++ [last])))

section

variable (b : Binder σ ω) (datasets : Dataset.Cache) (r : Binding) {w : Workspace σ ω}
  {mark : SceneMark} {s : Sketch}

/-- The workspace in which the batch of a binding begins. -/
def begun (w : Workspace σ ω) (s : Sketch) : Workspace σ ω :=
  ⟨w.book.setBoth r.mark s (w.book.identitiesFor r.mark), w.tools,
    b.host.dispatch w.world .startBatch⟩

theorem account_bind {book : Sketchbook} {tools : σ} {deeds : Trace} {result : Attempt Unit}
    (opens : b.opening r w = .ok (mark, s))
    (body : b.Account (b.begun r w s) ((b.bindInBatch datasets r mark s).run (b.begun r w s))
      book tools deeds result) :
    b.Account w ((b.bind datasets r).run w) book tools (Trace.batched deeds) result := by
  obtain ⟨found, sketch⟩ := opening_eq_ok_iff.1 opens
  have known : Attempt.ofOption (b.host.mark? w.world r.mark)
      ("No mark with id " ++ toString r.mark) = .ok mark := by
    rw [found]
    rfl
  unfold bind
  refine (Account.ofState b w).look ?_
  refine (Account.ofAttempt b w known).look ?_
  exact (b.account_openSketch w mark r.mark sketch).andThen (Account.inBatch body)

theorem account_bind_of_rejected {f : Failure} (opens : b.opening r w = .ok (mark, s))
    (check : mark.checkPipeline r.dataset = .error f) :
    b.Account w ((b.bind datasets r).run w)
      (w.book.setBoth r.mark s (w.book.identitiesFor r.mark)) w.tools (Trace.batched [])
      (.error f) :=
  b.account_bind datasets r opens (b.account_link_of_error _ r mark check).stops

theorem run_bind_of_error {f : Failure} (opens : b.opening r w = .error f) :
    (b.bind datasets r).run w = ⟨w, [], .error f⟩ := by
  unfold opening at opens
  unfold bind
  rw [Task.run_bind]
  simp only [Task.run_state]
  rw [Task.run_bind]
  cases found : b.host.mark? w.world r.mark with
  | none =>
      simp only [found] at opens
      cases opens
      rfl
  | some mark =>
      simp only [found] at opens
      cases sketch : w.book.sketchFor r.mark mark.type with
      | ok s =>
          simp only [sketch, Except.map] at opens
          cases opens
      | error f' =>
          simp only [sketch, Except.map] at opens
          cases opens
          simp only [Task.run_ofAttempt, Attempt.ofOption]
          rw [Task.run_bind, run_openSketch_of_error w mark r.mark sketch]
          rfl

/-- The workspace in which a sketch is compiled. -/
def encoded (w : Workspace σ ω) (mark : SceneMark) (s : Sketch) (d : ChannelDef) :
    Workspace σ ω :=
  ⟨w.book.setBoth r.mark (s.encode r.channel d) (w.book.identitiesFor r.mark), w.tools,
    b.host.after (b.host.dispatch w.world .startBatch) (Trace.actions (r.linkDeeds mark))⟩

theorem account_encoded {p : SceneMark.Pipeline} {d : ChannelDef} {book : Sketchbook} {tools : σ}
    {deeds : Trace} {result : Attempt Unit} {rest : SceneMark → ChannelDef → Job σ ω Unit}
    (check : mark.checkPipeline r.dataset = .ok p) (decode : r.field.channelDef = .ok d)
    (next : b.Account (b.encoded r w mark s d)
      ((rest { mark with link := some r.link } d).run (b.encoded r w mark s d))
      book tools deeds result) :
    b.Account (b.begun r w s)
      ((do
        let linked ← b.link r mark
        let d ← Task.ofAttempt r.field.channelDef
        editBook (·.setSketch r.mark (s.encode r.channel d))
        rest linked d : Job σ ω Unit).run (b.begun r w s))
      book tools (r.linkDeeds mark ++ deeds) result := by
  refine (b.account_link (b.begun r w s) r mark check).andThen ?_
  refine (Account.ofAttempt b _ decode).look ?_
  refine (Account.ofEdit b _ _).andThen ?_
  have there : (b.begun r w s).book.setSketch r.mark (s.encode r.channel d) =
      w.book.setBoth r.mark (s.encode r.channel d) (w.book.identitiesFor r.mark) :=
    Sketchbook.setSketch_setBoth ..
  rw [there]
  exact next

/-- Which parts were left without identity is only remarked. -/
theorem account_unmapped (id : MarkId) (e : Envelope) (w : Workspace σ ω) :
    b.Account w
      ((if !e.unmapped.isEmpty then note (.unmapped id e.unmapped) else pure () :
        Job σ ω Unit).run w)
      w.book w.tools [] (.ok ()) := by
  split
  · exact Account.ofNote b w _
  · exact Account.done b w ()

/-- A binding whose field tells no derivation is a batch that at most links the mark. -/
theorem account_bind_of_undecoded {p : SceneMark.Pipeline} {f : Failure}
    (opens : b.opening r w = .ok (mark, s)) (check : mark.checkPipeline r.dataset = .ok p)
    (decode : r.field.channelDef = .error f) :
    b.Account w ((b.bind datasets r).run w)
      (w.book.setBoth r.mark s (w.book.identitiesFor r.mark)) w.tools
      (Trace.batched (r.linkDeeds mark)) (.error f) := by
  have linked := b.account_link (b.begun r w s) r mark check
  have body : b.Account (b.begun r w s)
      ((b.bindInBatch datasets r mark s).run (b.begun r w s)) _ _ _ _ :=
    linked.andThen (Account.ofAttempt b _ decode).stops
  rw [List.append_nil] at body
  exact b.account_bind datasets r opens body

/-- A binding whose sketch is refused by the compiler ends with the compilation. -/
theorem account_bind_of_uncompiled {p : SceneMark.Pipeline} {d : ChannelDef} {f : Failure}
    (opens : b.opening r w = .ok (mark, s)) (check : mark.checkPipeline r.dataset = .ok p)
    (decode : r.field.channelDef = .ok d)
    (compiles : b.compiler (b.input datasets r s d) = .error f) :
    b.Account w ((b.bind datasets r).run w)
      (w.book.setBoth r.mark (s.encode r.channel d) (w.book.identitiesFor r.mark)) w.tools
      (Trace.batched (r.linkDeeds mark ++ [.compiled (b.input datasets r s d)])) (.error f) := by
  have compiled := b.account_compile_encoded (b.encoded r w mark s d) datasets r s d
  rw [compiles] at compiled
  apply b.account_bind datasets r opens
  exact b.account_encoded r check decode compiled.stops

/-- A binding whose sketch is compiled goes on with the stages. -/
theorem account_bind_of_compiled {p : SceneMark.Pipeline} {d : ChannelDef} {c : Chart}
    (opens : b.opening r w = .ok (mark, s)) (check : mark.checkPipeline r.dataset = .ok p)
    (decode : r.field.channelDef = .ok d)
    (compiles : b.compiler (b.input datasets r s d) = .ok c) :
    ∃ earlier last,
      b.performances (b.first r w mark ⟨b.input datasets r s d, c⟩) [.scales, .marks, .guides] =
        earlier ++ [last] ∧
      b.Account w ((b.bind datasets r).run w)
        (w.book.setBoth r.mark (s.encode r.channel d) (b.report last).envelope.identities)
        (b.report last).tools
        (Trace.batched (r.linkDeeds mark ++ [.compiled (b.input datasets r s d)]
          ++ (earlier ++ [last]).flatMap (b.performed r.mark)))
        (b.resultOf (earlier ++ [last])) := by
  have compiled := b.account_compile_encoded (b.encoded r w mark s d) datasets r s d
  rw [compiles] at compiled
  obtain ⟨earlier, last, performs, stages⟩ := b.account_extract r.mark
    [.scales, .marks, .guides] .data (b.encoded r w mark s d)
    (r.envelope mark ⟨b.input datasets r s d, c⟩ (w.book.identitiesFor r.mark))
  refine ⟨earlier, last, performs, ?_⟩
  apply b.account_bind datasets r opens
  rw [List.append_assoc]
  apply b.account_encoded r check decode
  apply compiled.andThen
  -- The envelope is made from the identities of the book, which setting the channel left alone.
  have there : (b.encoded r w mark s d).book.identitiesFor r.mark = w.book.identitiesFor r.mark :=
    Sketchbook.identitiesFor_setBoth_self ..
  have book : (b.encoded r w mark s d).book.setIdentities r.mark
      (b.report last).envelope.identities =
        w.book.setBoth r.mark (s.encode r.channel d) (b.report last).envelope.identities :=
    Sketchbook.setIdentities_setBoth ..
  have whole := stages.thenLook (b.account_unmapped r.mark)
  rw [book, Attempt.map_map_unit] at whole
  refine (Account.ofState b _).look ?_
  simp only [there]
  exact whole

/-- There are no other courses. -/
theorem course (w : Workspace σ ω) : Course b datasets r w ((b.bind datasets r).run w) := by
  cases opens : b.opening r w with
  | error f => exact .unopened opens (b.run_bind_of_error datasets r opens)
  | ok opened =>
      obtain ⟨mark, s⟩ := opened
      cases check : mark.checkPipeline r.dataset with
      | error f => exact .rejected opens check (b.account_bind_of_rejected datasets r opens check)
      | ok p =>
          cases decode : r.field.channelDef with
          | error f =>
              exact .undecoded opens check decode
                (b.account_bind_of_undecoded datasets r opens check decode)
          | ok d =>
              cases compiles : b.compiler (b.input datasets r s d) with
              | error f =>
                  exact .uncompiled opens check decode compiles
                    (b.account_bind_of_uncompiled datasets r opens check decode compiles)
              | ok c =>
                  obtain ⟨earlier, last, performs, account⟩ :=
                    b.account_bind_of_compiled datasets r opens check decode compiles
                  exact .extracted opens check decode compiles performs account

end

theorem Course.exists_account {b : Binder σ ω} {datasets : Dataset.Cache} {r : Binding}
    {w : Workspace σ ω} {o : Outcome (Workspace σ ω) BindEvent Unit}
    (h : Course b datasets r w o) :
    ∃ book tools deeds result, b.Account w o book tools deeds result := by
  cases h with
  | unopened _ ends =>
      subst ends
      exact ⟨w.book, w.tools, [], _, rfl, rfl, rfl⟩
  | rejected _ _ account => exact ⟨_, _, _, _, account⟩
  | undecoded _ _ _ account => exact ⟨_, _, _, _, account⟩
  | uncompiled _ _ _ _ account => exact ⟨_, _, _, _, account⟩
  | extracted _ _ _ _ _ account => exact ⟨_, _, _, _, account⟩

/-- The moment of the compilation in a batch that links, compiles and goes on. -/
theorem Account.before_compiled {b : Binder σ ω} {w : Workspace σ ω} {r : Binding}
    {mark : SceneMark} {o : Outcome (Workspace σ ω) BindEvent Unit} {book : Sketchbook} {tools : σ}
    {result : Attempt Unit} {rest t t' : Trace} {i s : Sketch}
    (account : b.Account w o book tools
      (Trace.batched (r.linkDeeds mark ++ [.compiled i] ++ rest)) result)
    (quiet : Trace.sketches rest = []) (split : o.events = t ++ .compiled s :: t') :
    s = i ∧ Trace.actions t = .startBatch :: Trace.actions (r.linkDeeds mark) := by
  -- Remarks and questions are dropped on both sides; what is left has one compilation on the left,
  -- so the split on the right is at that one.
  have deeds := account.deeds
  have inside : (.dispatched .startBatch :: r.linkDeeds mark) ++
      .compiled i :: (rest ++ [.dispatched .endBatch]) =
        Trace.deeds t ++ .compiled s :: Trace.deeds t' := by
    rw [split, Trace.deeds_append, Trace.deeds, Trace.deeds, List.filter_cons_of_pos rfl] at deeds
    rw [Trace.deeds, Trace.deeds, deeds, Trace.batched]
    simp
  have later : Trace.sketches (rest ++ [.dispatched .endBatch]) = [] := by
    rw [Trace.sketches_append, quiet]
    rfl
  have earlier : Trace.sketches (.dispatched .startBatch :: r.linkDeeds mark) = [] :=
    r.sketches_linkDeeds mark
  obtain ⟨before, same⟩ := Trace.before_compiled earlier later inside
  refine ⟨same, ?_⟩
  rw [← Trace.actions_deeds, before]
  rfl

/-- At the moment of a compilation the mark has been linked, and nothing else was dispatched. -/
theorem Course.of_compiled {b : Binder σ ω} {datasets : Dataset.Cache} {r : Binding}
    {w : Workspace σ ω} {o : Outcome (Workspace σ ω) BindEvent Unit} {t t' : Trace} {s : Sketch}
    (h : Course b datasets r w o) (split : o.events = t ++ .compiled s :: t') :
    ∃ mark s₀ p d, b.opening r w = .ok (mark, s₀) ∧ mark.checkPipeline r.dataset = .ok p ∧
      r.field.channelDef = .ok d ∧ s = b.input datasets r s₀ d ∧
      Trace.actions t = .startBatch :: Trace.actions (r.linkDeeds mark) := by
  have some_sketch : Trace.sketches o.events ≠ [] := split ▸ Trace.sketches_ne_nil
  cases h with
  | unopened _ ends =>
      subst ends
      exact absurd rfl some_sketch
  | rejected _ _ account =>
      rw [account.sketches] at some_sketch
      exact absurd rfl some_sketch
  | @undecoded mark _ _ _ _ _ _ account =>
      rw [account.sketches, Trace.sketches_batched, r.sketches_linkDeeds mark] at some_sketch
      exact absurd rfl some_sketch
  -- In both remaining courses something was compiled, once, and right after the linking.
  | @uncompiled mark s₀ p d f opens check decode _ account =>
      rw [← List.append_nil (r.linkDeeds mark ++ _)] at account
      obtain ⟨same, actions⟩ := account.before_compiled rfl split
      exact ⟨mark, s₀, p, d, opens, check, decode, same, actions⟩
  | @extracted mark s₀ p d c earlier last opens check decode _ _ account =>
      obtain ⟨same, actions⟩ :=
        account.before_compiled (b.sketches_flatMap_performed r.mark _) split
      exact ⟨mark, s₀, p, d, opens, check, decode, same, actions⟩

/-! ## The other calls -/

theorem account_unbind (b : Binder σ ω) (w : Workspace σ ω) (mark : MarkId) (property : String) :
    b.Account w ((b.unbind mark property).run w)
      (w.book.editSketch mark (·.clear (Channel.ofProperty property))) w.tools
      (Trace.batched [.dispatched (.resetVisual mark property)]) (.ok ()) :=
  Account.inBatch ((Account.ofEdit b _ _).andThen (Account.ofDispatch b _ _))

theorem account_evict (b : Binder σ ω) (w : Workspace σ ω) (mark : MarkId) :
    b.Account w ((evict mark : Job σ ω Unit).run w) (w.book.evict mark) w.tools [] (.ok ()) :=
  Account.ofEdit b w _

theorem account_reset (b : Binder σ ω) (w : Workspace σ ω) :
    b.Account w ((reset : Job σ ω Unit).run w) Sketchbook.empty w.tools [] (.ok ()) :=
  Account.ofEdit b w _

end Binder

end ChartBinding
