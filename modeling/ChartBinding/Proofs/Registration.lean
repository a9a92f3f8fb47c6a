import ChartBinding.PlainCompiler
import ChartBinding.Proofs.Session
import ChartBinding.Proofs.Unmapped
import ChartBinding.Registrar

/-!
# Registered parts keep their identity

The registrar numbers all primitives, of all marks and kinds, from one counter. `Numbered` ties the
actions so far, the counter and the entries of the book together: the additions carry the numbers
from one on, the counter stands at the last of them, and an entry has one of these numbers, each at
most one entry. It is kept by every single registration (`Numbered.issue`), and thereby by stages,
calls and sessions. The numbers are words of 32 bits, so what is said of entries holds as long as
fewer than `UInt32.size` primitives were made.

Registrations only add to the identities of a mark. So an entry stays until its mark is forgotten,
and what a stage has to register is registered when the last stage is over.
-/

namespace ChartBinding

/-! ## Additions and entries -/

namespace Action

/-- Whether an action makes a primitive. -/
def isAddition : Action → Bool
  | .custom kind _ => ["ADD_PIPELINE", "ADD_SCALE", "ADD_AXIS", "ADD_LEGEND"].contains kind
  | _ => false

/-- The number in the payload of an action. -/
def payloadId? : Action → Option Json
  | .custom _ payload => payload.get? "id"
  | _ => none

def additions (as : List Action) : List Action := as.filter isAddition

theorem additions_append (as bs : List Action) :
    additions (as ++ bs) = additions as ++ additions bs :=
  List.filter_append ..

theorem additions_batch (as : List Action) :
    additions (.startBatch :: (as ++ [.endBatch])) = additions as := by
  show additions (as ++ [.endBatch]) = additions as
  rw [additions_append]
  exact List.append_nil _

theorem isAddition_creation (kind : PrimitiveKind) (name : String) (id : PrimitiveId) :
    (Registrar.creation kind name id).isAddition = true := by
  cases kind <;> rfl

theorem payloadId?_creation (kind : PrimitiveKind) (name : String) (id : PrimitiveId) :
    (Registrar.creation kind name id).payloadId? = some (Json.ofId id) := rfl

end Action

namespace Sketchbook

/-- The primitive that a mark's identities record for a name. -/
def primitive? (b : Sketchbook) (m : MarkId) (kind : PrimitiveKind) (name : String) :
    Option PrimitiveId :=
  (b.identities? m).bind (·.find? kind name)

theorem primitive?_eq (b : Sketchbook) (m : MarkId) (kind : PrimitiveKind) (name : String) :
    b.primitive? m kind name = (b.identitiesFor m).find? kind name := by
  unfold primitive? identitiesFor
  cases b.identities? m with
  | some i => rfl
  | none => cases kind <;> rfl

@[simp] theorem primitive?_setIdentities_self (b : Sketchbook) (m : MarkId) (i : Identities)
    (kind : PrimitiveKind) (name : String) :
    (b.setIdentities m i).primitive? m kind name = i.find? kind name := by
  unfold primitive? identities? setIdentities
  rw [Table.find?_insert_self]
  rfl

theorem primitive?_setIdentities_of_ne (b : Sketchbook) {m m' : MarkId} (i : Identities)
    (kind : PrimitiveKind) (name : String) (h : m' ≠ m) :
    (b.setIdentities m i).primitive? m' kind name = b.primitive? m' kind name := by
  unfold primitive? identities? setIdentities
  rw [Table.find?_insert_of_ne _ _ h]

/-- Putting in the identities that a mark has changes no entry. -/
theorem primitive?_setIdentities_identitiesFor (b : Sketchbook) (m : MarkId) :
    (b.setIdentities m (b.identitiesFor m)).primitive? = b.primitive? := by
  funext m' kind name
  by_cases hm : m' = m
  · subst hm
    rw [primitive?_setIdentities_self, primitive?_eq]
  · rw [primitive?_setIdentities_of_ne _ _ _ _ hm]

theorem primitive?_setBoth (b : Sketchbook) (m : MarkId) (s : Sketch) (i : Identities) :
    (b.setBoth m s i).primitive? = (b.setIdentities m i).primitive? := rfl

theorem primitive?_evict_of_ne (b : Sketchbook) {m m' : MarkId} (kind : PrimitiveKind)
    (name : String) (h : m' ≠ m) :
    (b.evict m).primitive? m' kind name = b.primitive? m' kind name := by
  unfold primitive?
  rw [identities?_evict_of_ne _ h]

theorem primitive?_of_evict {b : Sketchbook} {m m' : MarkId} {kind : PrimitiveKind} {name : String}
    {id : PrimitiveId} (h : (b.evict m).primitive? m' kind name = some id) :
    b.primitive? m' kind name = some id := by
  by_cases hm : m' = m
  · subst hm
    rw [primitive?, identities?_evict_self] at h
    cases h
  · rw [← primitive?_evict_of_ne b kind name hm]
    exact h

@[simp] theorem primitive?_editSketch (b : Sketchbook) (m : MarkId) (f : Sketch → Sketch) :
    (b.editSketch m f).primitive? = b.primitive? := by
  funext m' kind name
  unfold primitive?
  rw [identities?_editSketch]

/-- An entry after a registration is the new one, or it was there. -/
theorem primitive?_insert {b : Sketchbook} {m m' : MarkId} {i : Identities}
    {kind kind' : PrimitiveKind} {name name' : String} {id id' : PrimitiveId}
    (h : (b.setIdentities m (i.insert kind name id)).primitive? m' kind' name' = some id') :
    (m' = m ∧ kind' = kind ∧ name' = name ∧ id' = id) ∨
      (b.setIdentities m i).primitive? m' kind' name' = some id' := by
  by_cases hm : m' = m
  · subst hm
    rw [primitive?_setIdentities_self, Identities.find?_insert] at h
    rw [primitive?_setIdentities_self]
    by_cases hk : kind' = kind ∧ name' = name
    · rw [if_pos hk, Option.some.injEq] at h
      exact .inl ⟨rfl, hk.1, hk.2, h.symm⟩
    · rw [if_neg hk] at h
      exact .inr h
  · rw [primitive?_setIdentities_of_ne _ _ _ _ hm] at h ⊢
    exact .inr h

end Sketchbook

/-! ## Numbering -/

/-- The numbering of primitives after actions: of the actions, of the counter, and of the
entries. -/
structure Numbered (as : List Action) (c : Registrar.Counter) (b : Sketchbook) : Prop where
  ids : (Action.additions as).map Action.payloadId? =
    (List.range' 1 (Action.additions as).length).map fun i => some (Json.ofId (UInt32.ofNat i))
  counter : c = UInt32.ofNat (Action.additions as).length
  bounded : (Action.additions as).length < UInt32.size → ∀ m kind name id,
    b.primitive? m kind name = some id → 0 < id.toNat ∧ id.toNat ≤ (Action.additions as).length
  distinct : (Action.additions as).length < UInt32.size → ∀ m kind name m' kind' name' id,
    b.primitive? m kind name = some id → b.primitive? m' kind' name' = some id →
      m = m' ∧ kind = kind' ∧ name = name'

namespace Numbered

variable {as : List Action} {c : Registrar.Counter} {b : Sketchbook}

/-- Few numbers are written as they are. -/
theorem ids_of_few (h : Numbered as c b) (few : (Action.additions as).length < UInt32.size) :
    (Action.additions as).map Action.payloadId? =
      (List.range' 1 (Action.additions as).length).map fun i => some (.int i) := by
  rw [h.ids]
  refine List.map_congr_left fun i hi => ?_
  have bound := List.mem_range'_1.1 hi
  have small : i < UInt32.size := by omega
  have word : (UInt32.ofNat i).toNat = i := UInt32.toNat_ofNat_of_lt' small
  rw [Json.ofId, word]

theorem empty : Numbered [] 0 Sketchbook.empty := by
  refine ⟨rfl, rfl, ?_, ?_⟩
  · intro _ m kind name id h
    cases h
  · intro _ m kind name m' kind' name' id h
    cases h

/-- Actions that make no primitive count for nothing. -/
theorem append_quiet (h : Numbered as c b) {bs : List Action} (quiet : Action.additions bs = []) :
    Numbered (as ++ bs) c b := by
  have same : Action.additions (as ++ bs) = Action.additions as := by
    rw [Action.additions_append, quiet, List.append_nil]
  constructor
  · rw [same]
    exact h.ids
  · rw [same]
    exact h.counter
  · rw [same]
    exact h.bounded
  · rw [same]
    exact h.distinct

theorem mono (h : Numbered as c b) {b' : Sketchbook}
    (kept : ∀ m kind name id,
      b'.primitive? m kind name = some id → b.primitive? m kind name = some id) :
    Numbered as c b' := by
  refine ⟨h.ids, h.counter, ?_, ?_⟩
  · intro small m kind name id entry
    exact h.bounded small m kind name id (kept _ _ _ _ entry)
  · intro small m kind name m' kind' name' id entry entry'
    exact h.distinct small m kind name m' kind' name' id (kept _ _ _ _ entry)
      (kept _ _ _ _ entry')

/-- **A registration is numbered next.** -/
theorem issue {m : MarkId} {i : Identities} {kind : PrimitiveKind} {name : String}
    (h : Numbered as c (b.setIdentities m i)) :
    Numbered (as ++ [Registrar.creation kind name (c + 1)]) (c + 1)
      (b.setIdentities m (i.insert kind name (c + 1))) := by
  have added : Action.additions (as ++ [Registrar.creation kind name (c + 1)]) =
      Action.additions as ++ [Registrar.creation kind name (c + 1)] := by
    rw [Action.additions_append]
    exact congrArg _ (List.filter_cons_of_pos (Action.isAddition_creation kind name (c + 1)))
  have next : c + 1 = UInt32.ofNat ((Action.additions as).length + 1) := by
    rw [h.counter, UInt32.ofNat_add]
    rfl
  have longer : (Action.additions (as ++ [Registrar.creation kind name (c + 1)])).length =
      (Action.additions as).length + 1 := by
    rw [added, List.length_append, List.length_singleton]
  refine ⟨?_, ?_, ?_, ?_⟩
  · rw [added, List.map_append, h.ids, List.length_append, List.length_singleton,
      List.range'_concat, List.map_append, List.map_singleton, List.map_singleton,
      Action.payloadId?_creation, next, Nat.one_mul, Nat.add_comm 1]
  · rw [longer, next]
  · rw [longer]
    intro small m' kind' name' id entry
    have top : (c + 1).toNat = (Action.additions as).length + 1 := by
      rw [next, UInt32.toNat_ofNat_of_lt' small]
    rcases Sketchbook.primitive?_insert entry with ⟨-, -, -, rfl⟩ | old
    · omega
    · have bound := h.bounded (by omega) _ _ _ _ old
      omega
  · rw [longer]
    intro small m₁ kind₁ name₁ m₂ kind₂ name₂ id entry₁ entry₂
    have top : (c + 1).toNat = (Action.additions as).length + 1 := by
      rw [next, UInt32.toNat_ofNat_of_lt' small]
    -- An old entry has an old number, so it cannot have the new one.
    rcases Sketchbook.primitive?_insert entry₁ with ⟨rfl, rfl, rfl, rfl⟩ | old₁
    · rcases Sketchbook.primitive?_insert entry₂ with ⟨rfl, rfl, rfl, -⟩ | old₂
      · exact ⟨rfl, rfl, rfl⟩
      · have bound := h.bounded (by omega) _ _ _ _ old₂
        omega
    · rcases Sketchbook.primitive?_insert entry₂ with ⟨rfl, rfl, rfl, rfl⟩ | old₂
      · have bound := h.bounded (by omega) _ _ _ _ old₁
        omega
      · exact h.distinct (by omega) _ _ _ _ _ _ _ old₁ old₂

end Numbered

/-! ## Ledgers -/

namespace Registrar

namespace Ledger

/-- A ledger that continues another one: it keeps its entries, and its additions are numbered if
those were. -/
structure Continues (l l' : Ledger) : Prop where
  keeps : ∀ kind name id, l.identities.find? kind name = some id →
    l'.identities.find? kind name = some id
  numbered : ∀ {as : List Action} {b : Sketchbook} {m : MarkId},
    Numbered (as ++ l.actions) l.counter (b.setIdentities m l.identities) →
      Numbered (as ++ l'.actions) l'.counter (b.setIdentities m l'.identities)

theorem Continues.refl (l : Ledger) : Continues l l :=
  ⟨fun _ _ _ h => h, fun h => h⟩

theorem Continues.trans {l l' l'' : Ledger} (h : Continues l l') (h' : Continues l' l'') :
    Continues l l'' :=
  ⟨fun kind name id entry => h'.keeps kind name id (h.keeps kind name id entry),
    fun numbered => h'.numbered (h.numbered numbered)⟩

theorem Continues.isSome {l l' : Ledger} (h : Continues l l') {kind : PrimitiveKind}
    {name : String} (known : (l.identities.find? kind name).isSome) :
    (l'.identities.find? kind name).isSome := by
  obtain ⟨id, entry⟩ := Option.isSome_iff_exists.1 known
  rw [h.keeps kind name id entry]
  rfl

theorem continues_register (l : Ledger) (kind : PrimitiveKind) (name : String) :
    Continues l (l.register kind name) := by
  unfold register
  cases unknown : l.identities.find? kind name with
  | some id => exact Continues.refl l
  | none =>
      -- The new entry is for a name without one, so it replaces none.
      constructor
      · intro kind' name' id entry
        have other : ¬ (kind' = kind ∧ name' = name) := by
          rintro ⟨rfl, rfl⟩
          rw [unknown] at entry
          cases entry
        show (l.identities.insert kind name (l.counter + 1)).find? kind' name' = some id
        rw [Identities.find?_insert, if_neg other]
        exact entry
      · intro as b m numbered
        rw [← List.append_assoc]
        exact numbered.issue

theorem isSome_register (l : Ledger) (kind : PrimitiveKind) (name : String) :
    ((l.register kind name).identities.find? kind name).isSome := by
  unfold register
  cases known : l.identities.find? kind name with
  | some id =>
      show (l.identities.find? kind name).isSome
      rw [known]
      rfl
  | none =>
      show ((l.identities.insert kind name (l.counter + 1)).find? kind name).isSome
      rw [Identities.find?_insert, if_pos ⟨rfl, rfl⟩]
      rfl

theorem continues_registerAll (kind : PrimitiveKind) (names : List String) :
    ∀ l : Ledger, Continues l (l.registerAll kind names) := by
  induction names with
  | nil => exact Continues.refl
  | cons name names ih =>
      intro l
      exact (l.continues_register kind name).trans (ih _)

theorem isSome_registerAll (kind : PrimitiveKind) (names : List String) :
    ∀ l : Ledger, ∀ name ∈ names,
      ((l.registerAll kind names).identities.find? kind name).isSome := by
  induction names with
  | nil =>
      intro l name hn
      cases hn
  | cons first names ih =>
      intro l name hn
      rcases List.mem_cons.1 hn with rfl | hn
      · exact (continues_registerAll kind names _).isSome (l.isSome_register kind name)
      · exact ih _ name hn

/-- A ledger after the names of several kinds. -/
def registerKinds (l : Ledger) (inventory : Inventory) (kinds : List PrimitiveKind) : Ledger :=
  kinds.foldl (fun l kind => l.registerAll kind (inventory.names kind)) l

theorem continues_registerKinds (inventory : Inventory) (kinds : List PrimitiveKind) :
    ∀ l : Ledger, Continues l (l.registerKinds inventory kinds) := by
  induction kinds with
  | nil => exact Continues.refl
  | cons kind kinds ih =>
      intro l
      exact (continues_registerAll kind _ l).trans (ih _)

theorem isSome_registerKinds (inventory : Inventory) (kinds : List PrimitiveKind) :
    ∀ l : Ledger, ∀ kind ∈ kinds, ∀ name ∈ inventory.names kind,
      ((l.registerKinds inventory kinds).identities.find? kind name).isSome := by
  induction kinds with
  | nil =>
      intro l kind hk
      cases hk
  | cons first kinds ih =>
      intro l kind hk name hn
      rcases List.mem_cons.1 hk with rfl | hk
      · exact (continues_registerKinds inventory kinds _).isSome
          (isSome_registerAll kind _ l name hn)
      · exact ih _ kind hk name hn

end Ledger

/-! ## Stages of the registrar -/

theorem additions_markActions (s : Stage) (e : Envelope) :
    Action.additions (markActions s e) = [] := by
  unfold markActions
  split <;> rfl

theorem numbered_work {as : List Action} {c : Counter} {b : Sketchbook} {m : MarkId} (s : Stage)
    {e : Envelope} (h : Numbered as c (b.setIdentities m e.identities)) :
    Numbered (as ++ (work s c e).actions) (work s c e).tools
      (b.setIdentities m (work s c e).envelope.identities) := by
  have created : Numbered (as ++ (create s c e).actions) (create s c e).counter
      (b.setIdentities m (create s c e).identities) := by
    refine (Ledger.continues_registerKinds e.output.inventory (kindsOf s)
      ⟨c, e.identities, []⟩).numbered ?_
    rw [List.append_nil]
    exact h
  have marked := created.append_quiet (additions_markActions s e)
  rw [List.append_assoc] at marked
  exact marked

theorem keeps_work (s : Stage) (c : Counter) (e : Envelope) (kind : PrimitiveKind) (name : String)
    (id : PrimitiveId) (h : e.identities.find? kind name = some id) :
    (work s c e).envelope.identities.find? kind name = some id :=
  (Ledger.continues_registerKinds e.output.inventory (kindsOf s) ⟨c, e.identities, []⟩).keeps
    kind name id h

theorem isSome_work (s : Stage) (c : Counter) (e : Envelope) {kind : PrimitiveKind}
    (hk : kind ∈ kindsOf s) {name : String} (hn : name ∈ e.output.inventory.names kind) :
    ((work s c e).envelope.identities.find? kind name).isSome :=
  Ledger.isSome_registerKinds e.output.inventory (kindsOf s) ⟨c, e.identities, []⟩ kind hk name hn

theorem exists_stage (kind : PrimitiveKind) : ∃ s ∈ Stage.all, kind ∈ kindsOf s := by
  cases kind with
  | data => exact ⟨.data, by decide, by decide⟩
  | scale => exact ⟨.scales, by decide, by decide⟩
  | axis => exact ⟨.guides, by decide, by decide⟩
  | legend => exact ⟨.guides, by decide, by decide⟩

end Registrar

namespace Binder

variable {ω : Type} {b : Binder Registrar.Counter ω}

/-- What the performances `ps` of `stages` come to, from the first one `p` to the last one. -/
structure Registers (b : Binder Registrar.Counter ω) (p : Performance Registrar.Counter ω)
    (stages : List Stage) (ps : List (Performance Registrar.Counter ω))
    (last : Performance Registrar.Counter ω) : Prop where
  numbered : ∀ {as : List Action} {book : Sketchbook} {m : MarkId},
    Numbered as p.tools (book.setIdentities m p.envelope.identities) →
      Numbered (as ++ ps.flatMap fun p => (b.report p).actions) (b.report last).tools
        (book.setIdentities m (b.report last).envelope.identities)
  keeps : ∀ kind name id, p.envelope.identities.find? kind name = some id →
    (b.report last).envelope.identities.find? kind name = some id
  complete : ∀ s ∈ stages, ∀ kind ∈ Registrar.kindsOf s,
    ∀ name ∈ p.envelope.output.inventory.names kind,
      ((b.report last).envelope.identities.find? kind name).isSome
  ok : b.resultOf ps = .ok ()

section

variable (registrar : b.extractor = Registrar.full.extractor)
include registrar

theorem report_eq_work (p : Performance Registrar.Counter ω) :
    b.report p = Registrar.work p.stage p.tools p.envelope := by
  unfold report
  rw [registrar]
  rfl

section

variable {P : Performance Registrar.Counter ω → List Stage →
  List (Performance Registrar.Counter ω) → Performance Registrar.Counter ω → Prop}

theorem exists_performances
    (single : ∀ p, P p [p.stage] [p] p)
    (cons : ∀ p s {rest ps last}, P (b.next p s) (s :: rest) ps last →
      P p (p.stage :: s :: rest) (p :: ps) last)
    (rest : List Stage) : ∀ p : Performance Registrar.Counter ω, ∃ earlier last,
      b.performances p rest = earlier ++ [last] ∧
        P p (p.stage :: rest) (earlier ++ [last]) last := by
  induction rest with
  | nil =>
      intro p
      exact ⟨[], p, rfl, single p⟩
  | cons s rest ih =>
      intro p
      obtain ⟨earlier, last, performs, holds⟩ := ih (b.next p s)
      refine ⟨p :: earlier, last, ?_, cons p s holds⟩
      have ok : (b.report p).result = .ok () := by
        rw [report_eq_work registrar p]
        rfl
      simp only [performances, ok]
      exact congrArg (p :: ·) performs

/-- No stage of the registrar fails. So what holds of a single performance, and of one with others
behind it if of those, holds of all stages. -/
theorem of_performances
    (single : ∀ p, P p [p.stage] [p] p)
    (cons : ∀ p s {rest ps last}, P (b.next p s) (s :: rest) ps last →
      P p (p.stage :: s :: rest) (p :: ps) last)
    {p last : Performance Registrar.Counter ω} {rest : List Stage}
    {earlier : List (Performance Registrar.Counter ω)}
    (performs : b.performances p rest = earlier ++ [last]) :
    P p (p.stage :: rest) (earlier ++ [last]) last := by
  obtain ⟨earlier', last', performs', holds⟩ := exists_performances registrar single cons rest p
  rw [performs'] at performs
  obtain ⟨rfl, same⟩ := List.append_inj' performs rfl
  obtain rfl := List.singleton_inj.1 same
  exact holds

end

theorem registers_single (p : Performance Registrar.Counter ω) :
    Registers b p [p.stage] [p] p := by
  have report := report_eq_work registrar p
  refine ⟨?_, ?_, ?_, ?_⟩
  · intro as book m numbered
    rw [List.flatMap_singleton, report]
    exact Registrar.numbered_work p.stage numbered
  · intro kind name id entry
    rw [report]
    exact Registrar.keeps_work p.stage p.tools p.envelope kind name id entry
  · intro s hs kind hk name hn
    obtain rfl := List.mem_singleton.1 hs
    rw [report]
    exact Registrar.isSome_work p.stage p.tools p.envelope hk hn
  · rw [resultOf, List.map_singleton, report]
    rfl

theorem registers_cons {p last : Performance Registrar.Counter ω} {s : Stage}
    {rest : List Stage} {ps : List (Performance Registrar.Counter ω)}
    (h : Registers b (b.next p s) (s :: rest) ps last) :
    Registers b p (p.stage :: s :: rest) (p :: ps) last := by
  have first := registers_single registrar p
  have report := report_eq_work registrar p
  refine ⟨?_, ?_, ?_, ?_⟩
  · intro as book m numbered
    have done := first.numbered numbered
    rw [List.flatMap_singleton] at done
    rw [List.flatMap_cons, ← List.append_assoc]
    exact h.numbered done
  · intro kind name id entry
    exact h.keeps kind name id (first.keeps kind name id entry)
  · intro t ht kind hk name hn
    rcases List.mem_cons.1 ht with rfl | ht
    · obtain ⟨id, entry⟩ := Option.isSome_iff_exists.1
        (first.complete p.stage (List.mem_singleton_self _) kind hk name hn)
      rw [h.keeps kind name id entry]
      rfl
    · -- The stages leave the chart as it is, so the parts that are due are still the same.
      have output : (b.next p s).envelope.output = p.envelope.output := by
        rw [next, report]
        rfl
      rw [← output] at hn
      exact h.complete t ht kind hk name hn
  · rw [resultOf, List.map_cons, report]
    exact h.ok

theorem registers_performances {p last : Performance Registrar.Counter ω} {rest : List Stage}
    {earlier : List (Performance Registrar.Counter ω)}
    (performs : b.performances p rest = earlier ++ [last]) :
    Registers b p (p.stage :: rest) (earlier ++ [last]) last :=
  of_performances registrar (registers_single registrar) (fun _ _ => registers_cons registrar)
    performs

end

/-! ## What a binding registers -/

/-- A binding with the registrar registers nothing, or it goes well and its stages register. -/
inductive Registration (b : Binder Registrar.Counter ω) (r : Binding)
    (w : Workspace Registrar.Counter ω)
    (o : Outcome (Workspace Registrar.Counter ω) BindEvent Unit) : Prop
  | failed {f : Failure} (result : o.result = .error f) (tools : o.state.tools = w.tools)
      (entries : o.state.book.primitive? = w.book.primitive?)
      (quiet : Action.additions (Trace.actions o.events) = [])
  | registered {sketch : Sketch} {chart : Chart} {p last : Performance Registrar.Counter ω}
      {ps : List (Performance Registrar.Counter ω)} {before later : List Action}
      (result : o.result = .ok ()) (sketches : Trace.sketches o.events = [sketch])
      (compiles : b.compiler sketch = .ok chart)
      (first : p.tools = w.tools ∧ p.envelope.identities = w.book.identitiesFor r.mark ∧
        p.envelope.output = chart)
      (registers : Registers b p Stage.all ps last)
      (tools : o.state.tools = (b.report last).tools)
      (entries : o.state.book.primitive? =
        (w.book.setIdentities r.mark (b.report last).envelope.identities).primitive?)
      (actions : Trace.actions o.events =
        before ++ ps.flatMap (fun p => (b.report p).actions) ++ later)
      (quiet : Action.additions before = [] ∧ Action.additions later = [])

theorem additions_linkDeeds (r : Binding) (mark : SceneMark) :
    Action.additions (Trace.actions (r.linkDeeds mark)) = [] := by
  unfold Binding.linkDeeds
  cases mark.link <;> rfl

theorem primitive?_unbind (w : Workspace Registrar.Counter ω) (n : MarkId) (property : String) :
    (b.outcome ⟨w, .unbind n property⟩).state.book.primitive? = w.book.primitive? := by
  have account := b.account_unbind w n property
  show ((b.unbind n property).run w).state.book.primitive? = _
  rw [account.book_eq, Sketchbook.primitive?_editSketch]

/-- A binding that failed with the identities of its mark unchanged registers nothing. -/
theorem Registration.of_failed {r : Binding} {w : Workspace Registrar.Counter ω}
    {o : Outcome (Workspace Registrar.Counter ω) BindEvent Unit} {s : Sketch} {ds : Trace}
    {f : Failure}
    (account : b.Account w o (w.book.setBoth r.mark s (w.book.identitiesFor r.mark)) w.tools
      (Trace.batched ds) (.error f))
    (quiet : Action.additions (Trace.actions ds) = []) : Registration b r w o := by
  refine .failed account.result account.tools_eq ?_ ?_
  · rw [account.book_eq, Sketchbook.primitive?_setBoth,
      Sketchbook.primitive?_setIdentities_identitiesFor]
  · rw [account.actions, Trace.actions_batched, Action.additions_batch, quiet]

section

variable (registrar : b.extractor = Registrar.full.extractor)
include registrar

theorem registration (datasets : Dataset.Cache) (r : Binding) (w : Workspace Registrar.Counter ω) :
    Registration b r w ((b.bind datasets r).run w) := by
  -- Before the stages nothing is registered; after them everything is, as the registrar never fails.
  cases b.course datasets r w with
  | unopened opens ends =>
      rw [ends]
      exact .failed rfl rfl rfl rfl
  | rejected opens check account => exact .of_failed account rfl
  | @undecoded mark _ _ _ _ _ _ account => exact .of_failed account (additions_linkDeeds r mark)
  | @uncompiled mark _ _ _ _ _ _ _ _ account =>
      refine .of_failed account ?_
      rw [Trace.actions_append, Action.additions_append, additions_linkDeeds]
      rfl
  | @extracted mark s p d c earlier last opens check decode compiles performs account =>
      have registers := registers_performances registrar performs
      have actions : Trace.actions ((b.bind datasets r).run w).events =
          (.startBatch :: Trace.actions (r.linkDeeds mark)) ++
            (earlier ++ [last]).flatMap (fun p => (b.report p).actions) ++ [.endBatch] := by
        rw [account.actions, Trace.actions_batched, Trace.actions_append, Trace.actions_append,
          actions_flatMap_performed]
        simp [Trace.actions, BindEvent.action?]
      refine .registered ?_ ?_ compiles ⟨rfl, rfl, rfl⟩ registers account.tools_eq ?_ actions
        ⟨additions_linkDeeds r mark, rfl⟩
      · rw [account.result, registers.ok]
      · rw [account.sketches, Trace.sketches_batched, Trace.sketches_append, Trace.sketches_append,
          r.sketches_linkDeeds, sketches_flatMap_performed]
        rfl
      · rw [account.book_eq]
        rfl

/-! ## Calls -/

theorem numbered_outcome (x : Visit Registrar.Counter ω) {as : List Action}
    (h : Numbered as x.start.tools x.start.book) :
    Numbered (as ++ b.actionsOf x) (b.outcome x).state.tools (b.outcome x).state.book := by
  obtain ⟨w, q⟩ := x
  cases q with
  | evict m =>
      have kept : Numbered as w.tools (w.book.evict m) :=
        h.mono fun _ _ _ _ entry => Sketchbook.primitive?_of_evict entry
      exact kept.append_quiet rfl
  | reset =>
      have none : Numbered as w.tools Sketchbook.empty := by
        refine h.mono fun _ _ _ _ entry => ?_
        cases entry
      exact none.append_quiet rfl
  | unbind m property =>
      have account := b.account_unbind w m property
      have kept : Numbered as w.tools
          (w.book.editSketch m (·.clear (Channel.ofProperty property))) := by
        refine h.mono fun _ _ _ _ entry => ?_
        rw [Sketchbook.primitive?_editSketch] at entry
        exact entry
      exact kept.append_quiet (congrArg Action.additions account.actions)
  | bind datasets r =>
      show Numbered (as ++ Trace.actions ((b.bind datasets r).run w).events)
        ((b.bind datasets r).run w).state.tools ((b.bind datasets r).run w).state.book
      cases registration registrar datasets r w with
      | failed result tools entries quiet =>
          rw [tools]
          refine Numbered.append_quiet (h.mono fun _ _ _ _ entry => ?_) quiet
          rw [entries] at entry
          exact entry
      | @registered sketch chart p last ps before later result sketches compiles first registers
          tools entries actions quiet =>
          obtain ⟨same_tools, same_identities, -⟩ := first
          have begun : Numbered (as ++ before) p.tools
              (w.book.setIdentities r.mark p.envelope.identities) := by
            rw [same_tools, same_identities]
            refine (h.append_quiet quiet.1).mono fun _ _ _ _ entry => ?_
            rw [Sketchbook.primitive?_setIdentities_identitiesFor] at entry
            exact entry
          have done := (registers.numbered begun).append_quiet quiet.2
          rw [tools, actions, ← List.append_assoc, ← List.append_assoc]
          refine done.mono fun _ _ _ _ entry => ?_
          rw [entries] at entry
          exact entry

/-- A mark that is not forgotten keeps its entries. -/
theorem primitive?_outcome (x : Visit Registrar.Counter ω) {m : MarkId}
    (stays : x.request.forgets m = false) {kind : PrimitiveKind} {name : String}
    {id : PrimitiveId} (h : x.start.book.primitive? m kind name = some id) :
    (b.outcome x).state.book.primitive? m kind name = some id := by
  obtain ⟨w, q⟩ := x
  cases q with
  | reset => cases stays
  | evict n =>
      have other : m ≠ n := (beq_eq_false_iff_ne.1 stays).symm
      exact (Sketchbook.primitive?_evict_of_ne w.book kind name other).trans h
  | unbind n property =>
      have account := b.account_unbind w n property
      show ((b.unbind n property).run w).state.book.primitive? _ _ _ = _
      rw [account.book_eq, Sketchbook.primitive?_editSketch]
      exact h
  | bind datasets r =>
      show ((b.bind datasets r).run w).state.book.primitive? _ _ _ = _
      cases registration registrar datasets r w with
      | failed result tools entries quiet =>
          rw [entries]
          exact h
      | registered result sketches compiles first registers tools entries actions quiet =>
          rw [entries]
          by_cases hm : m = r.mark
          · subst hm
            rw [Sketchbook.primitive?_setIdentities_self]
            refine registers.keeps kind name id ?_
            rw [first.2.1, ← Sketchbook.primitive?_eq]
            exact h
          · rw [Sketchbook.primitive?_setIdentities_of_ne _ _ _ _ hm]
            exact h

theorem primitive?_bind_of_failed {w : Workspace Registrar.Counter ω} {datasets : Dataset.Cache}
    {r : Binding} (h : (b.outcome ⟨w, .bind datasets r⟩).result ≠ .ok ()) :
    (b.outcome ⟨w, .bind datasets r⟩).state.book.primitive? = w.book.primitive? := by
  cases registration registrar datasets r w with
  | failed result tools entries quiet => exact entries
  | registered result _ _ _ _ _ _ _ _ => exact absurd result h

theorem unmapped_of_ok {w : Workspace Registrar.Counter ω} {datasets : Dataset.Cache}
    {r : Binding} (h : (b.outcome ⟨w, .bind datasets r⟩).result = .ok ()) :
    let o := b.outcome ⟨w, .bind datasets r⟩
    ∃ sketch chart, Trace.sketches o.events = [sketch] ∧ b.compiler sketch = .ok chart ∧
      (o.state.book.identitiesFor r.mark).unmapped chart.inventory = [] := by
  intro o
  cases registration registrar datasets r w with
  | failed result tools entries quiet =>
      have both := h.symm.trans result
      cases both
  | @registered sketch chart p last ps before later result sketches compiles first registers
      tools entries actions quiet =>
      obtain ⟨-, -, rfl⟩ := first
      refine ⟨sketch, p.envelope.output, sketches, compiles,
        Identities.unmapped_eq_nil_iff.2 ?_⟩
      intro kind name hn
      obtain ⟨s, hs, hk⟩ := Registrar.exists_stage kind
      have known := registers.complete s hs kind hk name hn
      rw [← Sketchbook.primitive?_eq]
      show (((b.bind datasets r).run w).state.book.primitive? r.mark kind name).isSome
      rw [entries, Sketchbook.primitive?_setIdentities_self]
      exact known

/-! ## Sessions -/

theorem numbered_session (requests : List Request) :
    ∀ {w : Workspace Registrar.Counter ω} {as : List Action}, Numbered as w.tools w.book →
      Numbered (as ++ b.actionsOfAll (b.visits w (requests.map .call)))
        (b.after w (requests.map .call)).tools (b.after w (requests.map .call)).book := by
  induction requests with
  | nil =>
      intro w as h
      exact h.append_quiet rfl
  | cons q requests ih =>
      intro w as h
      have rest := ih (numbered_outcome registrar ⟨w, q⟩ h)
      rw [List.append_assoc] at rest
      exact rest

theorem primitive?_after {m : MarkId} {kind : PrimitiveKind} {name : String} {id : PrimitiveId}
    (requests : List Request) (stays : ∀ q ∈ requests, q.forgets m = false) :
    ∀ {w : Workspace Registrar.Counter ω}, w.book.primitive? m kind name = some id →
      (b.after w (requests.map .call)).book.primitive? m kind name = some id := by
  induction requests with
  | nil =>
      intro w h
      exact h
  | cons q requests ih =>
      intro w h
      refine ih (fun q' hq' => stays q' (List.mem_cons_of_mem q hq')) ?_
      exact primitive?_outcome registrar ⟨w, q⟩ (stays q List.mem_cons_self) h

end

/-- What a session does to the identities of marks. -/
structure PreservesIdentities (b : Binder Registrar.Counter Scene)
    (w : Workspace Registrar.Counter Scene) (requests : List Request) : Prop where
  /-- The additions are numbered from one on, in order. -/
  ids : (Action.additions (b.actionsOfAll (b.visits w (requests.map .call)))).map
      Action.payloadId? =
    (List.range' 1 (Action.additions
      (b.actionsOfAll (b.visits w (requests.map .call)))).length).map fun i => some (.int i)
  nodup : ((Action.additions (b.actionsOfAll (b.visits w (requests.map .call)))).map
    Action.payloadId?).Nodup
  /-- An entry stays until its mark is forgotten. -/
  stays : ∀ earlier between later m kind name id, requests = earlier ++ between ++ later →
    (∀ q ∈ between, q.forgets m = false) →
    (b.after w (earlier.map .call)).book.primitive? m kind name = some id →
    (b.after w ((earlier ++ between).map .call)).book.primitive? m kind name = some id
  /-- Unbindings and failed bindings change no entry. -/
  unchanged : ∀ x ∈ b.visits w (requests.map .call),
    (∃ m property, x.request = .unbind m property) ∨
      (∃ datasets r, x.request = .bind datasets r) ∧ (b.outcome x).result ≠ .ok () →
    (b.outcome x).state.book.primitive? = x.start.book.primitive?
  /-- At any time, entries have different numbers. -/
  distinct : ∀ earlier later m kind name m' kind' name' id, requests = earlier ++ later →
    (b.after w (earlier.map .call)).book.primitive? m kind name = some id →
    (b.after w (earlier.map .call)).book.primitive? m' kind' name' = some id →
    m = m' ∧ kind = kind' ∧ name = name'
  /-- A binding that goes well maps every part of its chart. -/
  mapped : ∀ x ∈ b.visits w (requests.map .call), ∀ datasets r, x.request = .bind datasets r →
    (b.outcome x).result = .ok () →
    ∃ sketch chart, Trace.sketches (b.outcome x).events = [sketch] ∧
      b.compiler sketch = .ok chart ∧
      ((b.outcome x).state.book.identitiesFor r.mark).unmapped chart.inventory = []

/-- A binder with the registrar, for an application that is the scene. -/
def registering (settings : Settings) (compiler : Compiler) : Binder Registrar.Counter Scene :=
  onScene settings compiler Registrar.full.extractor

/-- **Parts keep their identity.** With the registrar, in a session that makes fewer than
`UInt32.size` primitives, whatever the compiler. -/
theorem preserves_identities (settings : Settings) (compiler : Compiler) (scene : Scene)
    (requests : List Request)
    (few : (Action.additions ((registering settings compiler).actionsOfAll
      ((registering settings compiler).visits ⟨Sketchbook.empty, 0, scene⟩
        (requests.map .call)))).length < UInt32.size) :
    PreservesIdentities (registering settings compiler) ⟨Sketchbook.empty, 0, scene⟩ requests := by
  have registrar : (registering settings compiler).extractor = Registrar.full.extractor := rfl
  have start : Numbered [] (⟨Sketchbook.empty, 0, scene⟩ : Workspace Registrar.Counter Scene).tools
      (⟨Sketchbook.empty, 0, scene⟩ : Workspace Registrar.Counter Scene).book := Numbered.empty
  have whole := numbered_session registrar requests start
  rw [List.nil_append] at whole
  have ids := whole.ids_of_few few
  refine ⟨ids, ?_, ?_, ?_, ?_, ?_⟩
  · rw [ids]
    refine List.pairwise_map.2 ((List.nodup_range' 1).imp fun ne same => ne ?_)
    exact Int.ofNat_inj.1 (Json.int.inj (Option.some.inj same))
  · rintro earlier between later m kind name id - stays entry
    rw [List.map_append, after_append]
    exact primitive?_after registrar between stays entry
  · rintro ⟨w, q⟩ - (⟨n, property, hq⟩ | ⟨⟨datasets, r, hq⟩, failed⟩)
    · subst hq
      exact primitive?_unbind w n property
    · subst hq
      exact primitive?_bind_of_failed registrar failed
  · -- A session that makes few primitives makes few up to any moment.
    rintro earlier later m kind name m' kind' name' id rfl entry entry'
    have upto := numbered_session registrar earlier start
    rw [List.nil_append] at upto
    rw [List.map_append, visits_append, actionsOfAll_append, Action.additions_append,
      List.length_append] at few
    exact upto.distinct (by omega) m kind name m' kind' name' id entry entry'
  · rintro ⟨w, q⟩ - datasets r hq ok
    subst hq
    exact unmapped_of_ok registrar ok

theorem preserves_identities_two_marks :
    let b := registering Settings.default PlainCompiler.compile
    let w : Workspace Registrar.Counter Scene :=
      ⟨Sketchbook.empty, 0, Table.ofList [(7, ⟨7, "rect", none, ∅⟩), (9, ⟨9, "symbol", none, ∅⟩)]⟩
    let requests : List Request :=
      [.bind (.new fun _ => []) ⟨1, Field.plain "price" .quantitative, 7, "x"⟩,
        .bind (.new fun _ => []) ⟨1, Field.plain "kind" .nominal, 9, "fill"⟩,
        .bind (.new fun _ => []) ⟨1, Field.plain "weight" .quantitative, 7, "y"⟩]
    (Action.additions (b.actionsOfAll (b.visits w (requests.map .call)))).length < UInt32.size ∧
      PreservesIdentities b w requests :=
  ⟨by decide +kernel, preserves_identities _ _ _ _ (by decide +kernel)⟩

end Binder

end ChartBinding
