import ChartBinding.Proofs.Holdings

/-!
# A schema is inferred once

Since the cache was last emptied, the inference has been called once for every data set that has a
schema, and for no other. What it was called on is what the data set showed when a call that wanted
its schema first found it showing anything (`Visit.shown?`).

Both come from one fact about a single call: it infers the schema that it adds to the table, and
nothing else (`Cache.inferences_asks`). `Tallied` keeps the calls and the table together over a run.
-/

namespace ChartBinding

namespace Table

variable {κ α : Type} [Ord κ]

theorem Entries.length_insert {k : κ} {a : α} :
    ∀ {l : List (κ × α)}, find? k l = none → (insert k a l).length = l.length + 1
  | [], _ => rfl
  | (k', b) :: rest, h => by
    unfold find? at h
    unfold insert
    split at h
    · cases h
    · split
      · rfl
      · contradiction
      · rw [List.length_cons, length_insert h, List.length_cons]

theorem length_keys_fill [Std.TransOrd κ] (t : Table κ α) (k : κ) (a : Option α) :
    (t.fill k a).keys.length =
      t.keys.length + (if (t.find? k).isSome then [] else a.toList).length := by
  cases there : t.find? k with
  | some b =>
      rw [t.fill_of_some a there]
      rfl
  | none =>
      rw [t.fill_of_none a there]
      cases a with
      | none => rfl
      | some a =>
          show ((Entries.insert k a t.entries).map _).length = (t.entries.map _).length + 1
          rw [List.length_map, List.length_map, Entries.length_insert there]

end Table

namespace Dataset

/-! ## What calls ask for -/

/-- The rows whose types were inferred. -/
def Event.inferred? : Event → Option Rows
  | .inferred rows => some rows
  | _ => none

/-- A call of a run, with the cache that it found. -/
structure Visit where
  start : Cache
  call : Call

namespace Cache

/-- What a call asks of the live view and of the inference. -/
def asks (c : Cache) : Call → List Event
  | .load id props => (c.load id props).events
  | .schema id => (c.schema id).events
  | .input _ => []
  | .output id => c.outputEvents id
  | .setView _ => []
  | .reset => []

/-- The calls of a run, in order. -/
def visits : Cache → List Turn → List Visit
  | _, [] => []
  | c, .call q :: rest => ⟨c, q⟩ :: visits (c.turn (.call q)) rest
  | c, .change view inference :: rest => visits (c.turn (.change view inference)) rest

end Cache

namespace Visit

/-- The rows on which a call calls the inference. -/
def inferences (x : Visit) : List Rows := (x.start.asks x.call).filterMap Event.inferred?

/-- What a call that wants the schema of a data set finds it showing. -/
def shown? (id : DatasetId) (x : Visit) : Option Rows :=
  if x.call.dataset? = some id then x.start.shownTo? x.call else none

/-- The calls since the cache was last emptied. -/
def sinceEmptied (xs : List Visit) : List Visit :=
  xs.foldl (fun recent x => if x.call.empties then [] else recent ++ [x]) []

end Visit

namespace Cache

variable (c : Cache) (id : DatasetId)

theorem inferences_outputEvents : (c.outputEvents id).filterMap Event.inferred? = [] := by
  unfold outputEvents
  cases c.view with
  | none => rfl
  | some view =>
      simp only
      cases view.nameOf id <;> rfl

theorem inferences_schema :
    (c.schema id).events.filterMap Event.inferred? =
      if (c.schemas.find? id).isSome then [] else (c.output id).toList := by
  unfold schema
  cases c.schemas.find? id with
  | some s => rfl
  | none =>
      cases c.output id with
      | none => exact c.inferences_outputEvents id
      | some rows =>
          simp only [List.filterMap_append, c.inferences_outputEvents id]
          rfl

/-- **A call infers the schema that it adds.** -/
theorem inferences_asks (covered : c.Covered) {q : Call} {n : DatasetId}
    (h : q.dataset? = some n) :
    (c.asks q).filterMap Event.inferred? =
      if (c.schemas.find? n).isSome then [] else (c.shownTo? q).toList := by
  cases q with
  | load m props =>
      cases h
      cases loaded : c.values.find? n with
      | some l =>
          rw [asks, c.load_of_loaded n props loaded, covered n (by rw [loaded]; rfl), if_pos rfl]
          rfl
      | none =>
          -- Being loaded without values is noted down, but it is no question.
          have same : (c.asks (.load n props)).filterMap Event.inferred? =
              ((c.stored n props).schema n).events.filterMap Event.inferred? := by
            rw [asks, load, stored, loaded, Table.fill_of_none _ _ loaded]
            cases c.loadedFor n props <;> rfl
          rw [same, inferences_schema]
          rfl
  | schema m =>
      cases h
      exact c.inferences_schema n
  | input m => exact (ite_self []).symm
  | output m =>
      cases h
      rw [asks, c.inferences_outputEvents n]
      exact (ite_self []).symm
  | setView _ => cases h
  | reset => cases h

end Cache

/-! ## The tally -/

/-- The inferences and the schemas since the cache was last emptied. -/
structure Tallied (recent : List Visit) (c : Cache) : Prop where
  count : (recent.flatMap Visit.inferences).length = c.schemas.keys.length
  each : ∀ id, ((recent.filter fun x => x.call.dataset? = some id).flatMap
    Visit.inferences).length = (c.schemas.find? id).toList.length
  origin : ∀ id, c.schemas.find? id =
    recent.findSome? fun x => (x.shown? id).map x.start.schemaOf

namespace Tallied

variable {recent : List Visit} {c : Cache}

theorem of_empty (h : c.schemas = ∅) : Tallied [] c := by
  refine ⟨?_, fun id => ?_, fun id => ?_⟩
  · rw [h]
    rfl
  · rw [h]
    rfl
  · rw [h]
    rfl

theorem perform (h : Tallied recent c) (covered : c.Covered) {q : Call}
    (stays : q.empties = false) : Tallied (recent ++ [⟨c, q⟩]) (c.perform q) := by
  cases target : q.dataset? with
  | none =>
      -- Only a new live view is left: it asks for nothing and changes no table.
      cases q with
      | setView view =>
          refine ⟨?_, fun id => ?_, fun id => ?_⟩
          · rw [List.flatMap_append]
            exact (congrArg List.length (List.append_nil _)).trans h.count
          · rw [List.filter_append]
            exact (congrArg (fun l => (List.flatMap Visit.inferences l).length)
              (List.append_nil _)).trans (h.each id)
          · rw [List.findSome?_append, ← h.origin id]
            exact Option.or_none.symm
      | reset => cases stays
      | _ => cases target
  | some n =>
      have asked : Visit.inferences ⟨c, q⟩ = _ := c.inferences_asks covered target
      have shown (id : DatasetId) : (Visit.shown? id ⟨c, q⟩).map c.schemaOf =
          if q.dataset? = some id then c.schemaFrom? q else none := by
        unfold Visit.shown?
        split <;> rfl
      refine ⟨?_, fun id => ?_, fun id => ?_⟩
      · rw [(c.tables_perform covered target).2, Table.length_keys_fill, ← h.count,
          List.flatMap_append, List.length_append, List.flatMap_singleton, asked,
          Cache.schemaFrom?]
        cases (c.schemas.find? n).isSome <;> cases c.shownTo? q <;> rfl
      · rw [(c.find?_perform id covered stays).2, List.filter_append, List.flatMap_append,
          List.length_append, h.each id]
        by_cases own : q.dataset? = some id
        · obtain rfl : n = id := Option.some.inj (target.symm.trans own)
          have counted : [(⟨c, q⟩ : Visit)].filter (fun x => x.call.dataset? = some n) = [⟨c, q⟩] :=
            List.filter_cons_of_pos (decide_eq_true own)
          rw [if_pos own, counted, List.flatMap_singleton, asked, Cache.schemaFrom?]
          cases c.schemas.find? n <;> cases c.shownTo? q <;> rfl
        · have uncounted : [(⟨c, q⟩ : Visit)].filter (fun x => x.call.dataset? = some id) = [] :=
            List.filter_cons_of_neg (by simpa using own)
          rw [if_neg own, uncounted, Option.or_none]
          rfl
      · rw [(c.find?_perform id covered stays).2, List.findSome?_append, ← h.origin id,
          List.findSome?_singleton, shown id]

end Tallied

namespace Cache

/-- **A run keeps the tally.** -/
theorem tallied_after (turns : List Turn) : ∀ {c : Cache} {recent : List Visit}, c.Sound →
    Tallied recent c →
      Tallied ((c.visits turns).foldl
        (fun recent x => if x.call.empties then [] else recent ++ [x]) recent) (c.after turns) := by
  induction turns with
  | nil =>
      intro c recent _ h
      exact h
  | cons t turns ih =>
      intro c recent sound h
      cases t with
      | change view inference => exact ih (sound.turn _) ⟨h.count, h.each, h.origin⟩
      | call q =>
          refine ih (sound.turn (.call q)) ?_
          show Tallied (if q.empties then [] else recent ++ [⟨c, q⟩]) (c.perform q)
          cases empties : q.empties with
          | false => exact h.perform sound.covered empties
          | true =>
              cases q with
              | reset => exact Tallied.of_empty rfl
              | _ => cases empties

/-- How schemas come about in a cache, of which `recent` are the calls since it was last emptied. -/
structure InfersOnce (recent : List Visit) (c : Cache) : Prop where
  /-- There were as many inferences as there are schemas. -/
  count : (recent.flatMap Visit.inferences).length = c.schemas.keys.length
  /-- The calls for a data set have inferred once if it has a schema, and else never. -/
  once : ∀ id, ((recent.filter fun x => x.call.dataset? = some id).flatMap
    Visit.inferences).length = if c.isMemoized id then 1 else 0
  /-- The schema was inferred from what the data set showed to the first call that wanted its schema
  and found it showing something. -/
  origin : ∀ id s, c.schemas.find? id = some s ↔ ∃ before x later rows,
    recent = before ++ x :: later ∧ (∀ y ∈ before, y.shown? id = none) ∧
      x.shown? id = some rows ∧ s = Schema.ofTypes (x.start.inference rows)
  /-- A schema that is kept is given without any question. -/
  kept : ∀ id s, c.schemas.find? id = some s →
    (c.schema id).value = s ∧ c.asks (.schema id) = []
  /-- A data set that is loaded is loaded again without any question. -/
  loaded : ∀ id props, (c.values.find? id).isSome → c.asks (.load id props) = []
  /-- For a data set that shows nothing, nothing is inferred and nothing changes. Its schema is
  empty, unless one was inferred when it showed something. -/
  unshown : ∀ id, c.output id = none →
    (c.asks (.schema id)).filterMap Event.inferred? = [] ∧ c.perform (.schema id) = c ∧
      (c.schema id).value = (c.schemas.find? id).getD ∅

/-- **A schema is inferred once.** At any moment of any run that starts with a new cache, whatever
is loaded, whatever the live view shows and however types are inferred. -/
theorem infers_once (inference : Inference) (turns : List Turn) :
    InfersOnce (Visit.sinceEmptied ((new inference).visits turns))
      ((new inference).after turns) := by
  have tallied : Tallied (Visit.sinceEmptied ((new inference).visits turns))
      ((new inference).after turns) :=
    tallied_after turns (sound_of_empty rfl rfl) (Tallied.of_empty rfl)
  generalize Visit.sinceEmptied ((new inference).visits turns) = recent at tallied
  generalize (new inference).after turns = c at tallied
  refine ⟨tallied.count, ?_, ?_, ?_, ?_, ?_⟩
  · intro id
    rw [tallied.each id, isMemoized, Table.contains]
    cases c.schemas.find? id <;> rfl
  · intro id s
    rw [tallied.origin id, List.findSome?_eq_some_iff]
    constructor
    · rintro ⟨before, x, later, rfl, made, unmade⟩
      obtain ⟨rows, shown, rfl⟩ := Option.map_eq_some_iff.1 made
      exact ⟨before, x, later, rows, rfl, fun y hy => Option.map_eq_none_iff.1 (unmade y hy),
        shown, rfl⟩
    · rintro ⟨before, x, later, rows, rfl, unshown, shown, rfl⟩
      refine ⟨before, x, later, rfl, ?_, fun y hy => Option.map_eq_none_iff.2 (unshown y hy)⟩
      rw [shown]
      rfl
  · intro id s known
    rw [asks, schema, known]
    exact ⟨rfl, rfl⟩
  · intro id props loaded
    obtain ⟨l, loaded⟩ := Option.isSome_iff_exists.1 loaded
    rw [asks, c.load_of_loaded id props loaded]
  · intro id unshown
    refine ⟨?_, ?_, ?_⟩
    · rw [asks, inferences_schema, unshown]
      exact ite_self []
    · show (c.schema id).cache = c
      rw [cache_schema, unshown, Option.map_none, Table.fill_none]
    · rw [schema, unshown]
      cases c.schemas.find? id <;> rfl

/-- A schema that was inferred from what the live view showed outlives the view: the data set shows
nothing any more, and its schema is not empty. -/
theorem schema_outlives_view :
    ¬ ∀ (inference : Inference) (turns : List Turn) (id : DatasetId),
      ((new inference).after turns).output id = none →
        (((new inference).after turns).schema id).value = ∅ := by
  intro h
  have empty := h (fun _ => [("a", .integer)])
    [.call (.setView ⟨fun _ => some "table", fun _ => some [.obj [("a", .int 1)]]⟩),
      .call (.schema 1), .call (.setView ⟨fun _ => none, fun _ => none⟩)] 1 rfl
  exact absurd (congrArg Table.keys empty) (List.cons_ne_nil "a" [])

end Cache

end Dataset

end ChartBinding
