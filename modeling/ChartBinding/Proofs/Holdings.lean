import ChartBinding.Dataset.Cache

/-!
# What a data set cache holds

A cache is asked for something over time, one call after another. Between two calls the live view
may come to show other rows, and the inference to judge rows otherwise, without the cache
(`Dataset.Turn`).

A call for a data set concerns the tables at that data set only, and what it adds there stands where
nothing stood before (`Cache.find?_perform`). So the tables grow until they are emptied. For schemas
this rests on an invariant: a loaded data set has a schema, so a call that finds it loaded has
nothing to add (`Cache.Covered`).
-/

namespace ChartBinding

/-! ## Filling gaps of a table -/

namespace Table

variable {κ α : Type} [Ord κ] [Std.TransOrd κ]

/-- Puts a value under a key where there is none, if there is a value to put. -/
def fill (t : Table κ α) (k : κ) (a : Option α) : Table κ α :=
  match t.find? k, a with
  | none, some a => t.insert k a
  | _, _ => t

theorem fill_of_some (t : Table κ α) {k : κ} (a : Option α) {b : α} (h : t.find? k = some b) :
    t.fill k a = t := by
  unfold fill
  rw [h]

theorem fill_of_none (t : Table κ α) {k : κ} (a : Option α) (h : t.find? k = none) :
    t.fill k a = a.elim t (t.insert k) := by
  unfold fill
  rw [h]
  cases a <;> rfl

theorem fill_none (t : Table κ α) (k : κ) : t.fill k none = t := by
  unfold fill
  split
  · contradiction
  · rfl

theorem find?_fill [Std.LawfulEqOrd κ] [DecidableEq κ] (t : Table κ α) (k k' : κ) (a : Option α) :
    (t.fill k a).find? k' = (t.find? k').or (if k' = k then a else none) := by
  cases there : t.find? k with
  | some b =>
      rw [t.fill_of_some a there]
      split
      · rename_i same
        rw [same, there]
        rfl
      · exact Option.or_none.symm
  | none =>
      rw [t.fill_of_none a there]
      cases a with
      | none =>
          rw [ite_self]
          exact Option.or_none.symm
      | some a =>
          split
          · rename_i same
            rw [same, there]
            exact find?_insert_self ..
          · rename_i other
            rw [Option.or_none]
            exact find?_insert_of_ne _ _ other

end Table

namespace Dataset

/-! ## Calls and runs -/

/-- What a cache is asked for. -/
inductive Call where
  | load (id : DatasetId) (props : Props)
  | schema (id : DatasetId)
  | input (id : DatasetId)
  | output (id : DatasetId)
  | setView (view : LiveView)
  | reset

namespace Call

/-- The data set that a call is for. -/
def dataset? : Call → Option DatasetId
  | load id _ => some id
  | schema id => some id
  | input id => some id
  | output id => some id
  | setView _ => none
  | reset => none

/-- Whether a call empties the cache. -/
def empties : Call → Bool
  | reset => true
  | _ => false

end Call

/-- One step of a run. -/
inductive Turn where
  | call (q : Call)
  /-- From now on the live view and the inference answer otherwise. -/
  | change (view : LiveView → LiveView) (inference : Inference)

namespace Cache

/-- The cache that a call leaves. -/
def perform (c : Cache) : Call → Cache
  | .load id props => (c.load id props).cache
  | .schema id => (c.schema id).cache
  | .input _ => c
  | .output _ => c
  | .setView view => c.setView view
  | .reset => c.reset

def turn (c : Cache) : Turn → Cache
  | .call q => c.perform q
  | .change view inference => { c with view := c.view.map view, inference := inference }

def after (c : Cache) (turns : List Turn) : Cache := turns.foldl turn c

end Cache

/-! ## Schemas that are made -/

/-- Every field stands under its own name, and is measured as its type suggests. -/
def WellNamed (s : Schema) : Prop :=
  ∀ name f, s.find? name = some f → f.name = name ∧ f.measure = f.type.measure

theorem wellNamed_ofTypes (fields : List (String × DataType)) :
    WellNamed (Schema.ofTypes fields) := by
  intro name f h
  rw [Schema.ofTypes, Table.find?_ofList] at h
  generalize fields.reverse = l at h
  induction l with
  | nil => cases h
  | cons g l ih =>
      rw [List.map_cons, Table.Entries.find?] at h
      split at h
      · rename_i same
        obtain rfl := Std.LawfulEqOrd.eq_of_compare same
        cases h
        exact ⟨rfl, rfl⟩
      · exact ih h

namespace Cache

/-- The schema that is inferred from rows. -/
def schemaOf (c : Cache) (rows : Rows) : Schema := Schema.ofTypes (c.inference rows)

/-- The cache in which a data set has been given its rows, unless it has some. -/
def stored (c : Cache) (id : DatasetId) (props : Props) : Cache :=
  { c with values := c.values.fill id (c.loadedFor id props) }

/-- A loaded data set has a schema. -/
def Covered (c : Cache) : Prop :=
  ∀ id, (c.values.find? id).isSome → (c.schemas.find? id).isSome

/-! ## Single operations -/

variable (c : Cache) (id : DatasetId)

/-- A loaded data set shows something. -/
theorem output_isSome_of_loaded (h : (c.values.find? id).isSome) : (c.output id).isSome := by
  obtain ⟨l, hl⟩ := Option.isSome_iff_exists.1 h
  unfold output input
  rw [hl]
  split <;> rfl

/-- A data set is given the schema of what it shows, unless it has one. -/
theorem cache_schema :
    (c.schema id).cache =
      { c with schemas := c.schemas.fill id ((c.output id).map c.schemaOf) } := by
  unfold schema
  cases known : c.schemas.find? id with
  | some s => rw [Table.fill_of_some _ _ known]
  | none =>
      rw [Table.fill_of_none _ _ known]
      cases c.output id <;> rfl

theorem load_of_loaded (props : Props) {l : Loaded} (h : c.values.find? id = some l) :
    c.load id props = ⟨some l.rows, c, []⟩ := by
  unfold load
  rw [h]

/-- A data set that is not loaded is given its rows, and then its schema. -/
theorem load_of_unloaded (props : Props) (h : c.values.find? id = none) :
    (c.load id props).cache = ((c.stored id props).schema id).cache := by
  unfold load stored
  rw [h, Table.fill_of_none _ _ h]
  cases c.loadedFor id props <;> rfl

theorem values_load (props : Props) :
    (c.load id props).cache.values = c.values.fill id (c.loadedFor id props) := by
  cases h : c.values.find? id with
  | none =>
      rw [c.load_of_unloaded id props h, cache_schema]
      rfl
  | some l => rw [c.load_of_loaded id props h, Table.fill_of_some _ _ h]

theorem schemas_load (covered : c.Covered) (props : Props) :
    (c.load id props).cache.schemas =
      c.schemas.fill id (((c.stored id props).output id).map c.schemaOf) := by
  cases h : c.values.find? id with
  | none =>
      rw [c.load_of_unloaded id props h, cache_schema]
      rfl
  | some l =>
      -- A loaded data set has a schema, so nothing can be added to it.
      obtain ⟨s, known⟩ := Option.isSome_iff_exists.1 (covered id (by rw [h]; rfl))
      rw [c.load_of_loaded id props h, Table.fill_of_some _ _ known]

/-- **A load gives the rows that the data set then has.** -/
theorem value_load (props : Props) :
    (c.load id props).value = (c.load id props).cache.input id := by
  rw [input, values_load, Table.find?_fill, if_pos rfl]
  unfold load
  cases c.values.find? id with
  | some l => rfl
  | none => cases c.loadedFor id props <;> rfl

/-! ## Calls -/

/-- The rows that a call loads its data set with, if it is not loaded. -/
def rowsFrom? (q : Call) : Option Loaded :=
  match q with
  | .load n props => c.loadedFor n props
  | _ => none

/-- What a call that wants the schema of its data set finds it showing. If it is to be loaded, that
is what it shows with its rows. -/
def shownTo? (q : Call) : Option Rows :=
  match q with
  | .load n props => (c.stored n props).output n
  | .schema n => c.output n
  | _ => none

/-- The schema that a call gives its data set, if it has none. -/
def schemaFrom? (q : Call) : Option Schema := (c.shownTo? q).map c.schemaOf

/-- What a call adds to the tables, it adds at its data set, where there is nothing. -/
theorem tables_perform (covered : c.Covered) {q : Call} {n : DatasetId}
    (h : q.dataset? = some n) :
    (c.perform q).values = c.values.fill n (c.rowsFrom? q) ∧
      (c.perform q).schemas = c.schemas.fill n (c.schemaFrom? q) := by
  cases q with
  | load m props =>
      cases h
      exact ⟨c.values_load n props, c.schemas_load n covered props⟩
  | schema m =>
      cases h
      show (c.schema n).cache.values = _ ∧ (c.schema n).cache.schemas = _
      rw [cache_schema]
      exact ⟨(Table.fill_none _ n).symm, rfl⟩
  | input _ => exact ⟨(Table.fill_none _ n).symm, (Table.fill_none _ n).symm⟩
  | output _ => exact ⟨(Table.fill_none _ n).symm, (Table.fill_none _ n).symm⟩
  | setView _ => cases h
  | reset => cases h

/-- **Tables are filled up.** What a data set has stays in front of what a call for it adds, and a
call for another one adds nothing. -/
theorem find?_perform (covered : c.Covered) {q : Call} (h : q.empties = false) :
    (c.perform q).values.find? id =
        (c.values.find? id).or (if q.dataset? = some id then c.rowsFrom? q else none) ∧
      (c.perform q).schemas.find? id =
        (c.schemas.find? id).or (if q.dataset? = some id then c.schemaFrom? q else none) := by
  cases target : q.dataset? with
  | none =>
      cases q with
      | setView _ => exact ⟨Option.or_none.symm, Option.or_none.symm⟩
      | reset => cases h
      | _ => cases target
  | some n =>
      obtain ⟨values, schemas⟩ := c.tables_perform covered target
      rw [values, schemas, Table.find?_fill, Table.find?_fill]
      have same : some n = some id ↔ id = n := by rw [Option.some.injEq, eq_comm]
      simp only [same, and_self]

/-- A call that loads its data set also gives it a schema. -/
theorem schemaFrom?_isSome {q : Call} (h : (c.rowsFrom? q).isSome) :
    (c.schemaFrom? q).isSome := by
  cases q with
  | load n props =>
      have loaded : ((c.stored n props).values.find? n).isSome := by
        show ((c.values.fill n (c.loadedFor n props)).find? n).isSome
        rw [Table.find?_fill, if_pos rfl, Option.isSome_or, Bool.or_eq_true]
        exact .inr h
      rw [schemaFrom?, Option.isSome_map]
      exact output_isSome_of_loaded _ n loaded
  | _ => cases h

theorem wellNamed_schemaFrom? {q : Call} {s : Schema} (h : c.schemaFrom? q = some s) :
    WellNamed s := by
  obtain ⟨rows, -, rfl⟩ := Option.map_eq_some_iff.1 h
  exact wellNamed_ofTypes _

/-! ## Runs -/

/-- What every cache of a run has: a schema for each loaded data set, and well-named schemas. -/
structure Sound (c : Cache) : Prop where
  covered : c.Covered
  named : ∀ id s, c.schemas.find? id = some s → WellNamed s

theorem sound_of_empty {c : Cache} (values : c.values = ∅) (schemas : c.schemas = ∅) :
    c.Sound := by
  constructor
  · intro id loaded
    rw [values] at loaded
    cases loaded
  · intro id s known
    rw [schemas] at known
    cases known

namespace Sound

variable {c}

theorem perform (h : c.Sound) (q : Call) : (c.perform q).Sound := by
  cases empties : q.empties with
  | true =>
      cases q with
      | reset => exact sound_of_empty rfl rfl
      | _ => cases empties
  | false =>
      constructor
      · intro id loaded
        obtain ⟨values, schemas⟩ := c.find?_perform id h.covered empties
        rw [values, Option.isSome_or, Bool.or_eq_true] at loaded
        rw [schemas, Option.isSome_or, Bool.or_eq_true]
        refine loaded.imp (h.covered id) fun new => ?_
        by_cases own : q.dataset? = some id
        · rw [if_pos own] at new ⊢
          exact c.schemaFrom?_isSome new
        · rw [if_neg own] at new
          cases new
      · intro id s known
        rw [(c.find?_perform id h.covered empties).2] at known
        rcases Option.or_eq_some_iff.1 known with old | ⟨-, new⟩
        · exact h.named id s old
        · split at new
          · exact c.wellNamed_schemaFrom? new
          · cases new

theorem turn (h : c.Sound) (t : Turn) : (c.turn t).Sound := by
  cases t with
  | call q => exact h.perform q
  | change view inference => exact ⟨h.covered, h.named⟩

theorem after (turns : List Turn) : ∀ {c : Cache}, c.Sound → (c.after turns).Sound := by
  induction turns with
  | nil =>
      intro c h
      exact h
  | cons t turns ih =>
      intro c h
      exact ih (h.turn t)

/-- What is held stays held as long as no call empties the cache. -/
theorem kept (turns : List Turn) (stays : ∀ q, .call q ∈ turns → q.empties = false)
    (id : DatasetId) : ∀ {c : Cache}, c.Sound →
      (∀ l, c.values.find? id = some l → (c.after turns).values.find? id = some l) ∧
        ∀ s, c.schemas.find? id = some s → (c.after turns).schemas.find? id = some s := by
  -- Each call adds to what is there, and what is there goes before what is added.
  induction turns with
  | nil =>
      intro c _
      exact ⟨fun _ h => h, fun _ h => h⟩
  | cons t turns ih =>
      intro c h
      obtain ⟨rows, schemas⟩ := ih (fun q hq => stays q (List.mem_cons_of_mem t hq)) (h.turn t)
      cases t with
      | change view inference => exact ⟨rows, schemas⟩
      | call q =>
          obtain ⟨rows', schemas'⟩ := c.find?_perform id h.covered (stays q List.mem_cons_self)
          refine ⟨fun l loaded => rows l ?_, fun s known => schemas s ?_⟩
          · show (c.perform q).values.find? id = _
            rw [rows', loaded, Option.some_or]
          · show (c.perform q).schemas.find? id = _
            rw [schemas', known, Option.some_or]

end Sound

/-- What can be relied on at a moment of a run, for all that the cache holds by then. -/
structure KeepsHoldings (c : Cache) : Prop where
  /-- A loaded data set has a schema. -/
  covered : ∀ id, (c.values.find? id).isSome → (c.schemas.find? id).isSome
  /-- A field of a schema has the name that it stands under, and the measure of its type. -/
  named : ∀ id s name f, c.schemas.find? id = some s → s.find? name = some f →
    f.name = name ∧ f.measure = f.type.measure
  /-- A load gives what the data set has as input from then on. -/
  answered : ∀ id props, (c.load id props).value = (c.perform (.load id props)).input id
  /-- Rows and schemas stay until the cache is emptied. -/
  stays : ∀ turns, (∀ q, .call q ∈ turns → q.empties = false) → ∀ id,
    (∀ l, c.values.find? id = some l → (c.after turns).values.find? id = some l) ∧
      ∀ s, c.schemas.find? id = some s → (c.after turns).schemas.find? id = some s
  /-- A call for one data set leaves all others as they are. -/
  others : ∀ q id, q.empties = false → q.dataset? ≠ some id →
    (c.perform q).values.find? id = c.values.find? id ∧
      (c.perform q).schemas.find? id = c.schemas.find? id
  emptied : (c.perform .reset).values = ∅ ∧ (c.perform .reset).schemas = ∅

/-- **Holdings are kept.** At any moment of any run that starts with a new cache, whatever is
loaded, whatever the live view shows and however types are inferred. -/
theorem holdings_kept (inference : Inference) (turns : List Turn) :
    KeepsHoldings ((new inference).after turns) := by
  have sound : ((new inference).after turns).Sound := Sound.after turns (sound_of_empty rfl rfl)
  refine ⟨sound.covered, ?_, value_load _, ?_, ?_, rfl, rfl⟩
  · intro id s name f known field
    exact sound.named id s known name f field
  · intro more stays id
    exact Sound.kept more stays id sound
  · intro q id empties other
    have both := find?_perform ((new inference).after turns) id sound.covered empties
    rw [if_neg other, if_neg other, Option.or_none, Option.or_none] at both
    exact both

end Cache

end Dataset

end ChartBinding
