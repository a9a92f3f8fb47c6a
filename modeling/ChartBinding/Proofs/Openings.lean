import ChartBinding.Proofs.Book
import ChartBinding.Proofs.Upkeep
import ChartBinding.Task

/-!
# Opening the sketchbook

A book is opened at a mark for its sketch, for its identities, or for both, and what has been opened
may be changed at will until the book is opened again. Only sketches can be refused, for they are
made of the mark's type; then nothing at all has happened to the book.

So the entries of a mark are determined by the calls that were not refused since the mark was last
forgotten. Its sketch is the one made by the first of them that opened it, with the changes from
there on; its identities start empty, with the changes of all the calls that opened them. Neither
depends on what was done to the other, nor on other marks.
-/

namespace ChartBinding

namespace Sketchbook

/-! ## Calls -/

/-- A call on a book, and the changes that are then made to what it has opened. -/
inductive Call where
  | sketch (mark : MarkId) (type : String) (edit : Sketch → Sketch)
  | both (mark : MarkId) (type : String) (edit : Sketch → Sketch)
    (name : Identities → Identities)
  | identities (mark : MarkId) (name : Identities → Identities)
  /-- Changes the sketch that may be there, and makes none. -/
  | revise (mark : MarkId) (edit : Sketch → Sketch)
  | evict (mark : MarkId)
  | reset

namespace Call

/-- Puts in place of the book what an attempt makes of it. -/
def change (f : Sketchbook → Attempt Sketchbook) : Task Sketchbook Empty Unit := do
  let b ← Task.state
  let b' ← Task.ofAttempt (f b)
  Task.update fun _ => b'

/-- What a call does, step by step. A step is not taken back when a later one is refused. -/
def task : Call → Task Sketchbook Empty Unit
  | sketch mark type edit => do
    change (·.openSketch mark type)
    Task.update (·.editSketch mark edit)
  | both mark type edit name => do
    change (·.openSketch mark type)
    Task.update (·.openIdentities mark)
    Task.update fun b => (b.editSketch mark edit).editIdentities mark name
  | identities mark name => Task.update fun b => (b.openIdentities mark).editIdentities mark name
  | revise mark edit => Task.update (·.editSketch mark edit)
  | evict mark => Task.update (·.evict mark)
  | reset => Task.update fun _ => empty

/-- The mark whose sketch is opened, and the type it is opened with. -/
def opens? : Call → Option (MarkId × String)
  | sketch mark type _ => some (mark, type)
  | both mark type _ _ => some (mark, type)
  | _ => none

/-- The change of a mark's sketch. -/
def edit (m : MarkId) : Call → Sketch → Sketch
  | sketch mark _ f => if mark = m then f else id
  | both mark _ f _ => if mark = m then f else id
  | revise mark f => if mark = m then f else id
  | _ => id

/-- The change of a mark's identities, by a call that opens them. -/
def name? (m : MarkId) : Call → Option (Identities → Identities)
  | both mark _ _ g => if mark = m then some g else none
  | identities mark g => if mark = m then some g else none
  | _ => none

def forgets (m : MarkId) : Call → Bool
  | evict mark => mark == m
  | reset => true
  | _ => false

/-- Whether a call is for a mark, or for all of them. -/
def concerns (m : MarkId) : Call → Bool
  | sketch mark _ _ => mark == m
  | both mark _ _ _ => mark == m
  | identities mark _ => mark == m
  | revise mark _ => mark == m
  | evict mark => mark == m
  | reset => true

end Call

def after (b : Sketchbook) (calls : List Call) : Sketchbook :=
  calls.foldl (fun b x => (x.task.run b).state) b

/-- The calls that are not refused. -/
def served (b : Sketchbook) : List Call → List Call
  | [] => []
  | x :: rest =>
    match (x.task.run b).result with
    | .ok _ => x :: served (x.task.run b).state rest
    | .error _ => served (x.task.run b).state rest

/-! ## Books after single calls -/

theorem setSketch_of_sketch? {b : Sketchbook} {mark : MarkId} {s : Sketch}
    (h : b.sketch? mark = some s) : b.setSketch mark s = b := by
  have same : b.sketches.insert mark s = b.sketches := by
    apply Table.ext_find?
    intro other
    by_cases ho : other = mark
    · subst ho
      rw [Table.find?_insert_self]
      exact h.symm
    · exact Table.find?_insert_of_ne _ _ ho
  rw [setSketch, same]

theorem editSketch_setSketch (b : Sketchbook) (mark : MarkId) (s : Sketch) (f : Sketch → Sketch) :
    (b.setSketch mark s).editSketch mark f = b.setSketch mark (f s) := by
  have found : (b.setSketch mark s).sketch? mark = some s := Table.find?_insert_self ..
  rw [editSketch, found]
  simp only [setSketch, Table.insert_insert]

theorem editSketch_setBoth (b : Sketchbook) (mark : MarkId) (s : Sketch) (i : Identities)
    (f : Sketch → Sketch) : (b.setBoth mark s i).editSketch mark f = b.setBoth mark (f s) i := by
  simp only [editSketch, sketch?_setBoth_self, setSketch_setBoth]

theorem editIdentities_openIdentities (b : Sketchbook) (mark : MarkId)
    (g : Identities → Identities) :
    (b.openIdentities mark).editIdentities mark g =
      b.setIdentities mark (g (b.identitiesFor mark)) := by
  have found : (b.openIdentities mark).identitiesFor mark = b.identitiesFor mark := by
    rw [openIdentities, identitiesFor, identities?, setIdentities, Table.find?_insert_self,
      Option.getD_some]
  rw [editIdentities, found, openIdentities, setIdentities_setIdentities]

theorem openSketch_of_ok {b : Sketchbook} {mark : MarkId} {type : String} {s : Sketch}
    (h : b.sketchFor mark type = .ok s) : b.openSketch mark type = .ok (b.setSketch mark s) := by
  rw [openSketch, h]
  rfl

theorem openBoth_of_ok {b : Sketchbook} {mark : MarkId} {type : String} {s : Sketch}
    (h : b.sketchFor mark type = .ok s) :
    b.openBoth mark type = .ok (b.setBoth mark s (b.identitiesFor mark)) := by
  rw [openBoth, openSketch_of_ok h]
  rfl

theorem openSketch_of_error {b : Sketchbook} {mark : MarkId} {type : String} {f : Failure}
    (h : b.sketchFor mark type = .error f) : b.openSketch mark type = .error f := by
  rw [openSketch, h]
  rfl

theorem openBoth_of_error {b : Sketchbook} {mark : MarkId} {type : String} {f : Failure}
    (h : b.sketchFor mark type = .error f) : b.openBoth mark type = .error f := by
  rw [openBoth, openSketch_of_error h]
  rfl

theorem sketchFor_eq_error_iff {b : Sketchbook} {mark : MarkId} {type : String} {f : Failure} :
    b.sketchFor mark type = .error f ↔
      b.sketch? mark = none ∧ Shape.ofMarkType type = .error f := by
  unfold sketchFor
  cases b.sketch? mark with
  | some s => simp
  | none => cases Shape.ofMarkType type <;> simp [Except.map]

namespace Call

theorem run_change (f : Sketchbook → Attempt Sketchbook) (b : Sketchbook) :
    (change f).run b =
      match f b with
      | .ok b' => ⟨b', [], .ok ()⟩
      | .error e => ⟨b, [], .error e⟩ := by
  rw [change, Task.run_bind, Task.run_state]
  simp only [Task.run_bind, Task.run_ofAttempt]
  cases f b <;> rfl

/-- Opening both at once is opening the sketch and then, if it was not refused, the identities. -/
theorem change_openBoth (mark : MarkId) (type : String) :
    change (·.openBoth mark type) =
      (change (·.openSketch mark type) >>= fun _ => Task.update (·.openIdentities mark)) := by
  refine Task.ext fun b => ?_
  rw [run_change, Task.run_bind, run_change, openBoth]
  cases b.openSketch mark type <;> rfl

section

variable {b : Sketchbook} {mark : MarkId} {type : String} {s : Sketch} {f : Failure}
  (edit : Sketch → Sketch) (name : Identities → Identities)

theorem run_sketch_of_ok (h : b.sketchFor mark type = .ok s) :
    (sketch mark type edit).task.run b = ⟨b.setSketch mark (edit s), [], .ok ()⟩ := by
  rw [task, Task.run_bind, run_change, openSketch_of_ok h]
  simp only [Task.run_update, editSketch_setSketch, List.append_nil]

theorem run_sketch_of_error (h : b.sketchFor mark type = .error f) :
    (sketch mark type edit).task.run b = ⟨b, [], .error f⟩ := by
  rw [task, Task.run_bind, run_change, openSketch_of_error h]

theorem run_both_of_ok (h : b.sketchFor mark type = .ok s) :
    (both mark type edit name).task.run b =
      ⟨b.setBoth mark (edit s) (name (b.identitiesFor mark)), [], .ok ()⟩ := by
  rw [task, ← bind_assoc, ← change_openBoth, Task.run_bind, run_change, openBoth_of_ok h]
  simp only [Task.run_update, editSketch_setBoth, editIdentities, identitiesFor_setBoth_self,
    setIdentities_setBoth, List.append_nil]

theorem run_both_of_error (h : b.sketchFor mark type = .error f) :
    (both mark type edit name).task.run b = ⟨b, [], .error f⟩ := by
  rw [task, ← bind_assoc, ← change_openBoth, Task.run_bind, run_change, openBoth_of_error h]

theorem run_identities :
    (identities mark name).task.run b =
      ⟨b.setIdentities mark (name (b.identitiesFor mark)), [], .ok ()⟩ := by
  rw [task, Task.run_update, editIdentities_openIdentities]

end

/-! ## Entries after single calls -/

/-- The type that a call opens a mark's sketch with. -/
def type? (m : MarkId) (x : Call) : Option String :=
  match x.opens? with
  | some (mark, type) => if mark = m then some type else none
  | none => none

/-- How calls that are not refused keep up a mark's sketch. -/
def sketching (m : MarkId) : Upkeep Call String Sketch where
  forgets := forgets m
  asks? := type? m
  make? type := (Shape.ofMarkType? type).map Sketch.ofShape
  edit := edit m

/-- How they keep up its identities, which can always be made. -/
def naming (m : MarkId) : Upkeep Call Unit Identities where
  forgets := forgets m
  asks? x := (x.name? m).map fun _ => ()
  make? _ := some Identities.empty
  edit x := (x.name? m).getD id

/-- A call that is not refused leads from one book to another. -/
structure Serves (x : Call) (b b' : Sketchbook) : Prop where
  sketch : ∀ m, b'.sketch? m = (sketching m).act (b.sketch? m) x
  identities : ∀ m, b'.identities? m = (naming m).act (b.identities? m) x
  answers : ∀ m, (sketching m).Answers (b.sketch? m) x

/-- A call is refused if it opens the sketch of a mark that has none, with a type that has no
shape. -/
def Refuses (x : Call) (b : Sketchbook) (f : Failure) : Prop :=
  ∃ m type, x.opens? = some (m, type) ∧ b.sketch? m = none ∧ Shape.ofMarkType type = .error f

theorem type?_eq_some_iff {m : MarkId} {x : Call} {type : String} :
    x.type? m = some type ↔ x.opens? = some (m, type) := by
  unfold type?
  cases x.opens? with
  | none => exact ⟨nofun, nofun⟩
  | some o =>
      obtain ⟨mark, type'⟩ := o
      by_cases own : mark = m <;> simp [own]

section

variable {b : Sketchbook} {m : MarkId} {x : Call} {type : String} {s : Sketch}

theorem answers_of_sketchFor (h : b.sketchFor m type = .ok s) (asks : x.type? m = some type) :
    (sketching m).Answers (b.sketch? m) x := by
  intro type' asks'
  obtain rfl := Option.some.inj (asks.symm.trans asks')
  rcases sketchFor_eq_ok_iff.1 h with old | ⟨-, k, known, -⟩
  · rw [old]
    exact .inl nofun
  · exact .inr ⟨Sketch.ofShape k, congrArg (Option.map Sketch.ofShape) known⟩

theorem act_of_sketchFor (h : b.sketchFor m type = .ok s) (stays : x.forgets m = false)
    (asks : x.type? m = some type) :
    (sketching m).act (b.sketch? m) x = some (x.edit m s) := by
  have made : (b.sketch? m).or ((sketching m).make? type) = some s := by
    rcases sketchFor_eq_ok_iff.1 h with old | ⟨new, k, known, rfl⟩
    · rw [old]
      rfl
    · rw [new]
      exact congrArg (Option.map Sketch.ofShape) known
  have asks : (sketching m).asks? x = some type := asks
  rw [Upkeep.act_of_stays stays, asks, Option.bind_some, made]
  rfl

theorem act_of_name {name : Identities → Identities} (stays : x.forgets m = false)
    (names : x.name? m = some name) (i : Option Identities) :
    (naming m).act i x = some (name (i.getD Identities.empty)) := by
  rw [Upkeep.act_of_stays stays]
  simp only [naming, names]
  cases i <;> rfl

end

theorem of_not_concerns {m : MarkId} {x : Call} (h : x.concerns m = false) :
    x.forgets m = false ∧ x.type? m = none ∧ x.edit m = id ∧ x.name? m = none := by
  cases x with
  | sketch mark type f =>
      have other : mark ≠ m := beq_eq_false_iff_ne.1 h
      exact ⟨rfl, if_neg other, if_neg other, rfl⟩
  | both mark type f g =>
      have other : mark ≠ m := beq_eq_false_iff_ne.1 h
      exact ⟨rfl, if_neg other, if_neg other, if_neg other⟩
  | identities mark g =>
      have other : mark ≠ m := beq_eq_false_iff_ne.1 h
      exact ⟨rfl, rfl, rfl, if_neg other⟩
  | revise mark f =>
      have other : mark ≠ m := beq_eq_false_iff_ne.1 h
      exact ⟨rfl, rfl, if_neg other, rfl⟩
  | evict mark => exact ⟨h, rfl, rfl, rfl⟩
  | reset => cases h

/-- A call for other marks leaves a mark's entries as they are. -/
theorem entries_of_not_concerns {m : MarkId} {x : Call} (h : x.concerns m = false)
    (s : Option Sketch) (i : Option Identities) :
    (sketching m).act s x = s ∧ (naming m).act i x = i := by
  obtain ⟨stays, noType, noEdit, noName⟩ := of_not_concerns h
  have silent : (naming m).asks? x = none := congrArg (Option.map fun _ => ()) noName
  have same : (naming m).edit x = id := congrArg (Option.getD · id) noName
  exact ⟨Upkeep.act_of_idle stays noType noEdit, Upkeep.act_of_idle stays silent same⟩

/-- A call for one mark is known by what it does to that mark's entries. -/
theorem Serves.of_mark {x : Call} {b b' : Sketchbook} (mark : MarkId)
    (only : ∀ m, m ≠ mark → x.concerns m = false)
    (others : ∀ m, m ≠ mark →
      b'.sketch? m = b.sketch? m ∧ b'.identities? m = b.identities? m)
    (sketch : b'.sketch? mark = (sketching mark).act (b.sketch? mark) x)
    (identities : b'.identities? mark = (naming mark).act (b.identities? mark) x)
    (answers : (sketching mark).Answers (b.sketch? mark) x) : x.Serves b b' := by
  refine ⟨fun m => ?_, fun m => ?_, fun m => ?_⟩
  · by_cases hm : m = mark
    · subst hm
      exact sketch
    · rw [(others m hm).1]
      exact (entries_of_not_concerns (only m hm) _ none).1.symm
  · by_cases hm : m = mark
    · subst hm
      exact identities
    · rw [(others m hm).2]
      exact (entries_of_not_concerns (only m hm) none _).2.symm
  · by_cases hm : m = mark
    · subst hm
      exact answers
    · intro type asks
      cases (of_not_concerns (only m hm)).2.1.symm.trans asks

/-- A call is refused, and nothing has happened, or it does to every mark's entries what the machines
say. -/
theorem run_task (x : Call) (b : Sketchbook) :
    (∃ f, x.Refuses b f ∧ x.task.run b = ⟨b, [], .error f⟩) ∨
      ∃ b', x.task.run b = ⟨b', [], .ok ()⟩ ∧ x.Serves b b' := by
  have apart : ∀ {mark m : MarkId}, m ≠ mark → (mark == m) = false :=
    fun hm => beq_eq_false_iff_ne.2 hm.symm
  cases x with
  | sketch mark type f =>
      have asks : (sketch mark type f).type? mark = some type := if_pos rfl
      cases opens : b.sketchFor mark type with
      | error e =>
          obtain ⟨new, unknown⟩ := sketchFor_eq_error_iff.1 opens
          exact .inl ⟨e, ⟨mark, type, rfl, new, unknown⟩, run_sketch_of_error f opens⟩
      | ok s =>
          refine .inr ⟨_, run_sketch_of_ok f opens, .of_mark mark (fun m => apart) ?_ ?_
            (Upkeep.act_of_idle rfl rfl rfl).symm (answers_of_sketchFor opens asks)⟩
          · exact fun m hm => ⟨Table.find?_insert_of_ne _ _ hm, rfl⟩
          · rw [act_of_sketchFor opens rfl asks, edit, if_pos rfl]
            exact Table.find?_insert_self ..
  | both mark type f g =>
      have asks : (both mark type f g).type? mark = some type := if_pos rfl
      cases opens : b.sketchFor mark type with
      | error e =>
          obtain ⟨new, unknown⟩ := sketchFor_eq_error_iff.1 opens
          exact .inl ⟨e, ⟨mark, type, rfl, new, unknown⟩, run_both_of_error f g opens⟩
      | ok s =>
          refine .inr ⟨_, run_both_of_ok f g opens, .of_mark mark (fun m => apart) ?_ ?_ ?_
            (answers_of_sketchFor opens asks)⟩
          · exact fun m hm =>
              ⟨sketch?_setBoth_of_ne _ _ _ hm, identities?_setBoth_of_ne _ _ _ hm⟩
          · rw [act_of_sketchFor opens rfl asks, edit, if_pos rfl]
            exact sketch?_setBoth_self ..
          · have names : (both mark type f g).name? mark = some g := if_pos rfl
            rw [act_of_name rfl names]
            exact identities?_setBoth_self ..
  | identities mark g =>
      refine .inr ⟨_, run_identities g, .of_mark mark (fun m => apart) ?_
        (Upkeep.act_of_idle rfl rfl rfl).symm ?_ nofun⟩
      · exact fun m hm => ⟨rfl, Table.find?_insert_of_ne _ _ hm⟩
      · have names : (identities mark g).name? mark = some g := if_pos rfl
        rw [act_of_name rfl names]
        exact Table.find?_insert_self ..
  | revise mark f =>
      refine .inr ⟨_, rfl, .of_mark mark (fun m => apart) ?_ ?_ ?_ nofun⟩
      · exact fun m hm => ⟨sketch?_editSketch_of_ne _ _ hm, identities?_editSketch ..⟩
      · rw [Upkeep.act_of_silent rfl rfl]
        simp only [sketching, edit, if_pos]
        exact sketch?_editSketch_self ..
      · rw [Upkeep.act_of_idle rfl rfl rfl]
        exact identities?_editSketch ..
  | evict mark =>
      have forgets : (evict mark).forgets mark = true := beq_self_eq_true mark
      refine .inr ⟨_, rfl, .of_mark mark (fun m => apart) ?_ ?_ ?_ nofun⟩
      · exact fun m hm => ⟨sketch?_evict_of_ne _ hm, identities?_evict_of_ne _ hm⟩
      · rw [Upkeep.act_of_forgets forgets]
        exact sketch?_evict_self ..
      · rw [Upkeep.act_of_forgets forgets]
        exact identities?_evict_self ..
  | reset => exact .inr ⟨empty, rfl, fun m => rfl, fun m => rfl, nofun⟩

theorem result_eq_error_iff {x : Call} {b : Sketchbook} {f : Failure} :
    (x.task.run b).result = .error f ↔ x.Refuses b f := by
  rcases x.run_task b with ⟨e, ⟨m, type, opens, new, unknown⟩, run⟩ | ⟨b', run, serves⟩
  · rw [run]
    constructor
    · rintro ⟨⟩
      exact ⟨m, type, opens, new, unknown⟩
    · rintro ⟨m', type', opens', -, unknown'⟩
      obtain ⟨rfl, rfl⟩ := Prod.mk.inj (Option.some.inj (opens.symm.trans opens'))
      cases unknown.symm.trans unknown'
      rfl
  · rw [run]
    constructor
    · exact nofun
    · rintro ⟨m, type, opens, new, unknown⟩
      exfalso
      rcases serves.answers m type (type?_eq_some_iff.2 opens) with old | ⟨s, made⟩
      · exact old new
      · obtain ⟨k, known, -⟩ := Option.map_eq_some_iff.1 made
        rw [Shape.ofMarkType_eq_ok_iff.2 known] at unknown
        cases unknown

/-- The calls since a mark was last forgotten. -/
def sinceForgotten (m : MarkId) (calls : List Call) : List Call :=
  Upkeep.sinceForgotten (forgets m) calls

/-- A sketch with the changes of calls, one after another. -/
def revised (m : MarkId) (calls : List Call) (s : Sketch) : Sketch :=
  calls.foldl (fun s y => y.edit m s) s

/-- A sketch keeps its shape until a change replaces it. -/
theorem shape_revised (m : MarkId) (calls : List Call) : ∀ s : Sketch,
    (revised m calls s).shape = s.shape ∨ ∃ earlier y rest, calls = earlier ++ y :: rest ∧
      (y.edit m (revised m earlier s)).shape ≠ (revised m earlier s).shape := by
  induction calls with
  | nil => exact fun _ => .inl rfl
  | cons x calls ih =>
      intro s
      by_cases keeps : (x.edit m s).shape = s.shape
      · rcases ih (x.edit m s) with same | ⟨earlier, y, rest, rfl, replaces⟩
        · exact .inl (same.trans keeps)
        · exact .inr ⟨x :: earlier, y, rest, rfl, replaces⟩
      · exact .inr ⟨[], x, calls, rfl, keeps⟩

end Call

/-! ## Runs of calls -/

open Call

/-- The calls that were not refused tell what the entries of a mark are. -/
theorem entries_after (m : MarkId) (calls : List Call) : ∀ b : Sketchbook,
    (sketching m).Answered (b.sketch? m) (b.served calls) ∧
      (b.after calls).sketch? m = (b.served calls).foldl (sketching m).act (b.sketch? m) ∧
      (b.after calls).identities? m =
        (b.served calls).foldl (naming m).act (b.identities? m) := by
  induction calls with
  | nil => exact fun _ => ⟨trivial, rfl, rfl⟩
  | cons x calls ih =>
      intro b
      rw [served, after, List.foldl_cons]
      rcases x.run_task b with ⟨f, -, run⟩ | ⟨b', run, serves⟩
      · rw [run]
        exact ih b
      · rw [run]
        have rest := ih b'
        rw [serves.sketch, serves.identities] at rest
        exact ⟨⟨serves.answers m, rest.1⟩, rest.2⟩

/-- What is known of a book after calls, of which `ran` were not refused. -/
structure Faithful (b : Sketchbook) (ran : List Call) : Prop where
  /-- A call is refused exactly if it opens the sketch of a mark that has none, with a type that
  has no shape. -/
  refused : ∀ (x : Call) f, (x.task.run b).result = .error f ↔ x.Refuses b f
  /-- Then nothing has happened. -/
  unchanged : ∀ (x : Call) f, (x.task.run b).result = .error f → (x.task.run b).state = b
  /-- A sketch that is there is opened with any type. Opening it alone changes nothing, and opening
  both adds at most empty identities. -/
  cached : ∀ m s, b.sketch? m = some s → ∀ type,
    b.openSketch m type = .ok b ∧ b.openBoth m type = .ok (b.openIdentities m) ∧
      (b.openIdentities m).sketch? m = some s
  /-- A sketch has been made by the first call that opened it, and has all changes from there on. -/
  sketch : ∀ m, (sketching m).IsReplay (sinceForgotten m ran) (b.sketch? m)
  /-- Its shape is that of the type in the first call that opened it, unless a change since then
  has replaced it. -/
  shape : ∀ m s, b.sketch? m = some s →
    ∃ before x later type k, sinceForgotten m ran = before ++ x :: later ∧
      (∀ y ∈ before, y.type? m = none) ∧ x.type? m = some type ∧
      Shape.ofMarkType? type = some k ∧
      (s.shape = k ∨ ∃ earlier y rest, x :: later = earlier ++ y :: rest ∧
        (y.edit m (revised m earlier (Sketch.ofShape k))).shape ≠
          (revised m earlier (Sketch.ofShape k)).shape)
  /-- Identities have been made empty by the first call that opened them, and have all changes from
  there on. -/
  identities : ∀ m, (naming m).IsReplay (sinceForgotten m ran) (b.identities? m)
  /-- A call for other marks changes neither entry. -/
  others : ∀ (x : Call) m, x.concerns m = false →
    (x.task.run b).state.sketch? m = b.sketch? m ∧
      (x.task.run b).state.identities? m = b.identities? m

/-- **The book keeps what was opened.** After any calls, with any changes of what they opened: a
refused call leaves no trace; a sketch that is there is opened with any type, and is the one that
the first call has made, with all changes; identities are kept apart from sketches; and the entries
of a mark depend on no call for another. -/
theorem after_faithful (calls : List Call) :
    (empty.after calls).Faithful (empty.served calls) := by
  have entries := fun m => entries_after m calls empty
  have sketches : ∀ m, (sketching m).IsReplay (sinceForgotten m (empty.served calls))
      ((empty.after calls).sketch? m) := by
    intro m
    rw [(entries m).2.1]
    exact Upkeep.isReplay_sinceForgotten (entries m).1
  refine ⟨fun x f => result_eq_error_iff, ?_, ?_, sketches, ?_, ?_, ?_⟩
  · intro x f refused
    rcases x.run_task (empty.after calls) with ⟨e, -, run⟩ | ⟨b', run, -⟩
    · rw [run]
    · rw [run] at refused
      cases refused
  · intro m s found type
    have opens : (empty.after calls).sketchFor m type = .ok s :=
      sketchFor_eq_ok_iff.2 (.inl found)
    refine ⟨?_, ?_, found⟩
    · rw [openSketch_of_ok opens, setSketch_of_sketch? found]
    · rw [openBoth_of_ok opens, ← openIdentities_setSketch, setSketch_of_sketch? found]
  · intro m s found
    have replay := sketches m
    rw [found] at replay
    obtain ⟨before, x, later, type, fresh, whole, unopened, opens, makes, rfl⟩ := replay
    obtain ⟨k, known, rfl⟩ := Option.map_eq_some_iff.1 makes
    exact ⟨before, x, later, type, k, whole, unopened, opens, known,
      shape_revised m (x :: later) (Sketch.ofShape k)⟩
  · intro m
    have total : ∀ k, ∃ i, (naming m).make? k = some i := fun _ => ⟨Identities.empty, rfl⟩
    rw [(entries m).2.2]
    exact Upkeep.isReplay_sinceForgotten (Upkeep.answered_of_total total _ none)
  · intro x m other
    rcases x.run_task (empty.after calls) with ⟨f, -, run⟩ | ⟨b', run, serves⟩
    · rw [run]
      exact ⟨rfl, rfl⟩
    · rw [run]
      have stays := entries_of_not_concerns other
      exact ⟨(serves.sketch m).trans (stays _ none).1,
        (serves.identities m).trans (stays none _).2⟩

/-- The shape need not stay that of the type: it can be changed like everything else in a sketch. -/
theorem edit_replaces_shape :
    ¬ ∀ calls m s, (empty.after calls).sketch? m = some s →
      ∃ before x later type, sinceForgotten m (empty.served calls) = before ++ x :: later ∧
        (∀ y ∈ before, y.type? m = none) ∧ x.type? m = some type ∧
        Shape.ofMarkType? type = some s.shape := by
  intro h
  let reshape : Call := .sketch 1 "rect" fun s => { s with shape := .point }
  obtain ⟨before, x, later, type, whole, -, opens, known⟩ :=
    h [reshape] 1 { Sketch.ofShape .bar with shape := .point } rfl
  have whole : [reshape] = before ++ x :: later := whole
  obtain rfl : x = reshape := by
    have among : x ∈ [reshape] := whole ▸ List.mem_append_right before List.mem_cons_self
    exact List.mem_singleton.1 among
  obtain rfl : "rect" = type := Option.some.inj opens
  have other : Shape.ofMarkType? "rect" = some .bar := rfl
  cases known.symm.trans other

end Sketchbook

end ChartBinding
