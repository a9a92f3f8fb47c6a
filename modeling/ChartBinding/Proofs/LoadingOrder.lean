import ChartBinding.Proofs.Holdings
import Mathlib.Data.List.Nodup

/-!
# The order of loading

A family of data sets is loaded one after another into a new cache. Each data set is loaded for
itself alone, so what its turn leaves in the tables stays until the end (`Cache.Passed`), and the
schema that it is given is that of what it shows in the end.

Its rows depend on its turn through its source only, which is looked up in the rows loaded so far.
If every source has had its turn by then, the rows are those given to the data set in which the
chain of sources ends (`Family.Draws`). That does not mention the order, so neither do the tables.
-/

namespace ChartBinding

namespace Dataset

/-- Data sets with what they are loaded from. -/
abbrev Family := List (DatasetId × Props)

namespace Family

variable {family : Family}

/-- The chain of sources that begins with a data set ends with another: it is left where a data set
has no source, or is none of the family. -/
inductive EndsAt (family : Family) : DatasetId → DatasetId → Prop
  | here {id : DatasetId} (sourceless : ∀ props, (id, props) ∈ family → props.source = none) :
      EndsAt family id id
  | source {id source root : DatasetId} {props : Props} (member : (id, props) ∈ family)
      (sourced : props.source = some source) (rest : EndsAt family source root) :
      EndsAt family id root

/-- The rows are those given to the data set in which the chain of sources ends. -/
def Draws (family : Family) (id : DatasetId) (l : Loaded) : Prop :=
  family.EndsAt id l.origin ∧ (l.origin, ⟨none, some l.rows⟩) ∈ family

/-- No data set comes before its source, and none is its own source. -/
structure SourcesFirst (order : Family) : Prop where
  before : order.Pairwise fun e e' => e.2.source ≠ some e'.1
  own : ∀ e ∈ order, e.2.source ≠ some e.1

/-- A data set comes after its source, if that belongs to the family. -/
theorem SourcesFirst.mem_before {before later : Family} {e : DatasetId × Props}
    (sources : SourcesFirst (before ++ e :: later)) {source : DatasetId}
    (sourced : e.2.source = some source)
    (member : source ∈ (before ++ e :: later).map (·.1)) : source ∈ before.map (·.1) := by
  rw [List.map_append, List.mem_append, List.map_cons, List.mem_cons] at member
  rcases member with earlier | rfl | later'
  · exact earlier
  · exact absurd sourced (sources.own e (List.mem_append_right _ List.mem_cons_self))
  · obtain ⟨e', there, rfl⟩ := List.mem_map.1 later'
    obtain ⟨-, pairs, -⟩ := List.pairwise_append.1 sources.before
    exact absurd sourced ((List.pairwise_cons.1 pairs).1 e' there)

/-- Every data set of a family has one place in an order. -/
theorem not_mem_beside {before later : Family} {e : DatasetId × Props}
    (distinct : ((before ++ e :: later).map (·.1)).Nodup) :
    e.1 ∉ before.map (·.1) ∧ e.1 ∉ later.map (·.1) := by
  rw [List.map_append, List.map_cons, List.nodup_middle, List.nodup_cons, List.mem_append,
    not_or] at distinct
  exact distinct.1

/-! ## Chains of sources -/

theorem eq_of_mem (distinct : (family.map (·.1)).Nodup) {id : DatasetId} {props props' : Props}
    (member : (id, props) ∈ family) (member' : (id, props') ∈ family) : props = props' :=
  congrArg Prod.snd (List.inj_on_of_nodup_map distinct member member' rfl)

namespace EndsAt

variable {id source root : DatasetId} {props : Props}

theorem eq_self (ends : family.EndsAt id root)
    (sourceless : ∀ props, (id, props) ∈ family → props.source = none) : root = id := by
  cases ends with
  | here _ => rfl
  | source member sourced _ => cases (sourceless _ member).symm.trans sourced

theorem iff_source (distinct : (family.map (·.1)).Nodup) (member : (id, props) ∈ family)
    (sourced : props.source = some source) :
    family.EndsAt id root ↔ family.EndsAt source root := by
  constructor
  · intro ends
    cases ends with
    | here sourceless => cases (sourceless props member).symm.trans sourced
    | source member' sourced' rest =>
        obtain rfl := eq_of_mem distinct member member'
        obtain rfl := Option.some.inj (sourced.symm.trans sourced')
        exact rest
  · exact .source member sourced

theorem unique (distinct : (family.map (·.1)).Nodup) {other : DatasetId}
    (ends : family.EndsAt id root) (ends' : family.EndsAt id other) : other = root := by
  induction ends with
  | here sourceless => exact ends'.eq_self sourceless
  | source member sourced _ ih => exact ih ((iff_source distinct member sourced).1 ends')

end EndsAt

namespace Draws

variable {id source : DatasetId} {props : Props} {l : Loaded}

theorem iff_source (distinct : (family.map (·.1)).Nodup) (member : (id, props) ∈ family)
    (sourced : props.source = some source) : family.Draws id l ↔ family.Draws source l :=
  and_congr_left fun _ => EndsAt.iff_source distinct member sourced

theorem iff_values (distinct : (family.map (·.1)).Nodup) (member : (id, props) ∈ family)
    (sourceless : props.source = none) :
    family.Draws id l ↔ l.origin = id ∧ props.values = some l.rows := by
  have ends : ∀ props', (id, props') ∈ family → props'.source = none := by
    intro props' member'
    rw [← eq_of_mem distinct member member', sourceless]
  constructor
  · rintro ⟨chain, given⟩
    have origin : l.origin = id := chain.eq_self ends
    rw [origin] at given
    rw [eq_of_mem distinct member given]
    exact ⟨origin, rfl⟩
  · rintro ⟨rfl, values⟩
    refine ⟨.here ends, ?_⟩
    rw [← values, ← sourceless]
    exact member

theorem of_not_mem (stranger : id ∉ family.map (·.1)) : ¬ family.Draws id l := by
  rintro ⟨chain, given⟩
  have origin : l.origin = id :=
    chain.eq_self fun props member => absurd (List.mem_map_of_mem member) stranger
  rw [origin] at given
  exact stranger (List.mem_map_of_mem given)

end Draws

end Family

namespace Cache

/-- Loads data sets one after another. -/
def loadAll (c : Cache) (order : Family) : Cache :=
  order.foldl (fun c e => (c.load e.1 e.2).cache) c

theorem loadAll_append (c : Cache) (order more : Family) :
    c.loadAll (order ++ more) = (c.loadAll order).loadAll more :=
  List.foldl_append

/-! ## One turn -/

section

variable (c : Cache) {id : DatasetId} (n : DatasetId) (props : Props)

theorem view_load : (c.load n props).cache.view = c.view := by
  cases loaded : c.values.find? n with
  | some l => rw [c.load_of_loaded n props loaded]
  | none => rw [c.load_of_unloaded n props loaded, cache_schema]; rfl

theorem inference_load : (c.load n props).cache.inference = c.inference := by
  cases loaded : c.values.find? n with
  | some l => rw [c.load_of_loaded n props loaded]
  | none => rw [c.load_of_unloaded n props loaded, cache_schema]; rfl

theorem find?_values_load :
    (c.load n props).cache.values.find? id =
      (c.values.find? id).or (if id = n then c.loadedFor n props else none) := by
  rw [values_load, Table.find?_fill]

theorem schemaOf_congr {c c' : Cache} (inference : c.inference = c'.inference) :
    c.schemaOf = c'.schemaOf := by
  unfold schemaOf
  rw [inference]

/-- What a data set shows depends on the live view and on its own rows. -/
theorem output_congr {c c' : Cache} (view : c.view = c'.view)
    (rows : c.values.find? id = c'.values.find? id) : c.output id = c'.output id := by
  unfold output evaluated input
  rw [view, rows]

/-- A turn gives its data set the schema of what it then shows. -/
theorem find?_schemas_load (covered : c.Covered) :
    (c.load n props).cache.schemas.find? id =
      (c.schemas.find? id).or (if id = n then
        ((c.load n props).cache.output n).map (c.load n props).cache.schemaOf else none) := by
  have shows : (c.stored n props).output n = (c.load n props).cache.output n := by
    refine output_congr (c.view_load n props).symm ?_
    rw [values_load]
    rfl
  have infers := schemaOf_congr (c.inference_load n props)
  rw [c.schemas_load n covered, Table.find?_fill, shows, infers]

/-- A data set whose source is not loaded is loaded with nothing. -/
theorem load_of_unready {source : DatasetId} (fresh : c.values.find? n = none)
    (sourced : props.source = some source) (unready : c.values.find? source = none) :
    (c.load n props).value = none ∧ (c.load n props).cache.values = c.values := by
  have nothing : c.loadedFor n props = none := by
    rw [loadedFor, sourced]
    exact unready
  have values : (c.load n props).cache.values = c.values := by
    rw [values_load, nothing, Table.fill_none]
  refine ⟨?_, values⟩
  rw [value_load, input, values, fresh]
  rfl

/-- Values that are given beside a source are not used. -/
theorem loadedFor_congr {props props' : Props} (source : props.source = props'.source)
    (values : props.source = none → props.values = props'.values) :
    c.loadedFor n props = c.loadedFor n props' := by
  unfold loadedFor
  rw [← source]
  cases sourced : props.source with
  | some s => rfl
  | none => rw [values sourced]

theorem load_congr {props props' : Props} (source : props.source = props'.source)
    (values : props.source = none → props.values = props'.values) :
    c.load n props = c.load n props' := by
  unfold load
  rw [c.loadedFor_congr n source values]

end

/-! ## All turns -/

/-- What holds after the turns of some data sets, whatever their order: other data sets have neither
rows nor a schema, and these have the schema of what they show now. -/
structure Passed (done : Family) (c : Cache) : Prop where
  sound : c.Sound
  unloaded : ∀ id, id ∉ done.map (·.1) → c.values.find? id = none
  schemas : ∀ id, c.schemas.find? id =
    if id ∈ done.map (·.1) then (c.output id).map c.schemaOf else none

/-- What holds after the turns of data sets that each came after their sources. A data set that is
none of the family counts as having had its turn. -/
structure Drawn (family done : Family) (c : Cache) : Prop where
  traced : ∀ id, (id ∈ family.map (·.1) → id ∈ done.map (·.1)) → ∃ root, family.EndsAt id root
  rows : ∀ id, (id ∈ family.map (·.1) → id ∈ done.map (·.1)) →
    ∀ l, c.values.find? id = some l ↔ family.Draws id l

theorem mem_map_concat {done : Family} {e : DatasetId × Props} {id : DatasetId} :
    id ∈ (done ++ [e]).map (·.1) ↔ id ∈ done.map (·.1) ∨ id = e.1 := by
  rw [List.map_append, List.mem_append]
  exact or_congr_right List.mem_singleton

theorem Passed.load {done : Family} {c : Cache} (h : Passed done c) (e : DatasetId × Props)
    (fresh : e.1 ∉ done.map (·.1)) : Passed (done ++ [e]) (c.load e.1 e.2).cache := by
  refine ⟨h.sound.perform (.load e.1 e.2), ?_, ?_⟩
  · intro id other
    rw [mem_map_concat, not_or] at other
    rw [find?_values_load, if_neg other.2, Option.or_none]
    exact h.unloaded id other.1
  · intro id
    rw [c.find?_schemas_load e.1 e.2 h.sound.covered, h.schemas id]
    by_cases own : id = e.1
    · subst own
      rw [if_neg fresh, if_pos rfl, if_pos (mem_map_concat.2 (.inr rfl))]
      rfl
    · -- Another data set is not touched, so it shows what it showed before.
      have shows : c.output id = (c.load e.1 e.2).cache.output id := by
        refine output_congr (c.view_load e.1 e.2).symm ?_
        rw [find?_values_load, if_neg own, Option.or_none]
      have infers := schemaOf_congr (c.inference_load e.1 e.2)
      have same : id ∈ (done ++ [e]).map (·.1) ↔ id ∈ done.map (·.1) := by
        rw [mem_map_concat, or_iff_left own]
      rw [if_neg own, Option.or_none, shows, infers]
      simp only [same]

/-- A data set draws on its source if the source does so itself. -/
theorem loadedFor_eq_some_iff {family : Family} (c : Cache) (distinct : (family.map (·.1)).Nodup)
    {id : DatasetId} {props : Props} (member : (id, props) ∈ family)
    (sources : ∀ source, props.source = some source →
      ∀ l, c.values.find? source = some l ↔ family.Draws source l) (l : Loaded) :
    c.loadedFor id props = some l ↔ family.Draws id l := by
  rw [loadedFor]
  cases sourced : props.source with
  | none =>
      rw [Family.Draws.iff_values distinct member sourced, Option.map_eq_some_iff]
      constructor
      · rintro ⟨rows, given, rfl⟩
        exact ⟨rfl, given⟩
      · rintro ⟨rfl, given⟩
        exact ⟨l.rows, given, rfl⟩
  | some source =>
      rw [Family.Draws.iff_source distinct member sourced]
      exact sources source sourced l

theorem Drawn.load {family done : Family} {c : Cache} (h : Drawn family done c)
    (distinct : (family.map (·.1)).Nodup) {e : DatasetId × Props} (member : e ∈ family)
    (unloaded : c.values.find? e.1 = none)
    (ready : ∀ source, e.2.source = some source → source ∈ family.map (·.1) →
      source ∈ done.map (·.1)) : Drawn family (done ++ [e]) (c.load e.1 e.2).cache := by
  obtain ⟨n, props⟩ := e
  have earlier {id : DatasetId} (other : id ≠ n)
      (turned : id ∈ family.map (·.1) → id ∈ (done ++ [(n, props)]).map (·.1)) :
      id ∈ family.map (·.1) → id ∈ done.map (·.1) :=
    fun known => (mem_map_concat.1 (turned known)).resolve_right other
  refine ⟨?_, ?_⟩
  · intro id turned
    by_cases own : id = n
    · subst own
      cases sourced : props.source with
      | none =>
          refine ⟨id, .here fun props' member' => ?_⟩
          rw [← Family.eq_of_mem distinct member member', sourced]
      | some source =>
          obtain ⟨root, chain⟩ := h.traced source (ready source sourced)
          exact ⟨root, .source member sourced chain⟩
    · exact h.traced id (earlier own turned)
  · intro id turned l
    rw [find?_values_load]
    by_cases own : id = n
    · subst own
      rw [unloaded, if_pos rfl, Option.none_or]
      refine loadedFor_eq_some_iff c distinct member (fun source sourced => ?_) l
      exact h.rows source (ready source sourced)
    · rw [if_neg own, Option.or_none]
      exact h.rows id (earlier own turned) l

/-- The new cache of a family, with the live view under which it is loaded. -/
def start (inference : Inference) (view : Option LiveView) : Cache :=
  { new inference with view := view }

section

variable (inference : Inference) (view : Option LiveView)

theorem passed_start : Passed [] (start inference view) :=
  ⟨sound_of_empty rfl rfl, fun _ _ => rfl, fun _ => rfl⟩

theorem drawn_start (family : Family) : Drawn family [] (start inference view) := by
  have stranger {id : DatasetId} (turned : id ∈ family.map (·.1) → id ∈ ([] : Family).map (·.1)) :
      id ∉ family.map (·.1) := fun known => nomatch turned known
  refine ⟨?_, ?_⟩
  · intro id turned
    exact ⟨id, .here fun props member => absurd (List.mem_map_of_mem member) (stranger turned)⟩
  · intro id turned l
    exact iff_of_false nofun (Family.Draws.of_not_mem (stranger turned))

end

theorem Passed.loadAll (rest : Family) : ∀ {done : Family} {c : Cache}, Passed done c →
    ((done ++ rest).map (·.1)).Nodup → Passed (done ++ rest) (c.loadAll rest) := by
  induction rest with
  | nil =>
      intro done c h _
      rw [List.append_nil]
      exact h
  | cons e rest ih =>
      intro done c h distinct
      have moved := ih (h.load e (Family.not_mem_beside distinct).1)
      rw [List.append_assoc, List.singleton_append] at moved
      exact moved distinct

theorem Drawn.loadAll {family : Family} (distinct : (family.map (·.1)).Nodup) (rest : Family) :
    ∀ {done : Family} {c : Cache}, Drawn family done c → Passed done c →
      (done ++ rest).Perm family → Family.SourcesFirst (done ++ rest) →
        Drawn family (done ++ rest) (c.loadAll rest) := by
  induction rest with
  | nil =>
      intro done c h _ _ _
      rw [List.append_nil]
      exact h
  | cons e rest ih =>
      intro done c h passed perm sources
      have apart := ((perm.map (·.1)).nodup_iff).2 distinct
      have member : e ∈ family := perm.mem_iff.1 (List.mem_append_right _ List.mem_cons_self)
      have fresh := (Family.not_mem_beside apart).1
      have drawn := h.load distinct member (passed.unloaded e.1 fresh) fun source sourced known =>
        sources.mem_before sourced ((perm.map (·.1)).mem_iff.2 known)
      have moved := ih drawn (passed.load e fresh)
      rw [List.append_assoc, List.singleton_append] at moved
      exact moved perm sources

theorem loadAll_congr {order order' : Family}
    (alike : List.Forall₂ (fun e e' => e.1 = e'.1 ∧ e.2.source = e'.2.source ∧
      (e.2.source = none → e.2.values = e'.2.values)) order order') :
    ∀ c : Cache, c.loadAll order = c.loadAll order' := by
  induction alike with
  | nil => exact fun _ => rfl
  | @cons e e' _ _ same _ ih =>
      intro c
      obtain ⟨id, source, values⟩ := same
      show ((c.load e.1 e.2).cache).loadAll _ = ((c.load e'.1 e'.2).cache).loadAll _
      rw [c.load_congr e.1 source values, id, ih]

theorem view_loadAll (order : Family) : ∀ c : Cache, (c.loadAll order).view = c.view := by
  induction order with
  | nil => exact fun _ => rfl
  | cons e order ih => exact fun c => (ih _).trans (c.view_load e.1 e.2)

theorem inference_loadAll (order : Family) :
    ∀ c : Cache, (c.loadAll order).inference = c.inference := by
  induction order with
  | nil => exact fun _ => rfl
  | cons e order ih => exact fun c => (ih _).trans (c.inference_load e.1 e.2)

theorem find?_values_loadAll_of_not_mem {id : DatasetId} {order : Family} :
    ∀ {c : Cache}, id ∉ order.map (·.1) →
      (c.loadAll order).values.find? id = c.values.find? id := by
  induction order with
  | nil => exact fun _ => rfl
  | cons e order ih =>
      intro c other
      rw [List.map_cons, List.mem_cons, not_or] at other
      refine (ih other.2).trans ?_
      rw [find?_values_load, if_neg other.1, Option.or_none]

section

variable {family order order' : Family} (inference : Inference) (view : Option LiveView)

theorem passed_loadAll (distinct : (order.map (·.1)).Nodup) :
    Passed order ((start inference view).loadAll order) :=
  (passed_start inference view).loadAll order distinct

/-- **Rows come from the ends of the chains.** -/
theorem drawn_loadAll (distinct : (family.map (·.1)).Nodup) (perm : order.Perm family)
    (sources : order.SourcesFirst) :
    Drawn family order ((start inference view).loadAll order) :=
  (drawn_start inference view family).loadAll distinct order (passed_start inference view) perm
    sources

/-- **The tables do not depend on the order**, as long as sources come first. -/
theorem loadAll_eq_of_perm (distinct : (family.map (·.1)).Nodup) (perm : order.Perm family)
    (perm' : order'.Perm family) (sources : order.SourcesFirst)
    (sources' : order'.SourcesFirst) :
    (start inference view).loadAll order = (start inference view).loadAll order' := by
  have drawn := drawn_loadAll inference view distinct perm sources
  have drawn' := drawn_loadAll inference view distinct perm' sources'
  have passed := passed_loadAll inference view ((perm.map (·.1)).nodup_iff.2 distinct)
  have passed' := passed_loadAll inference view ((perm'.map (·.1)).nodup_iff.2 distinct)
  have views := ((start inference view).view_loadAll order).trans
    ((start inference view).view_loadAll order').symm
  have inferences := ((start inference view).inference_loadAll order).trans
    ((start inference view).inference_loadAll order').symm
  generalize (start inference view).loadAll order = c at *
  generalize (start inference view).loadAll order' = c' at *
  have members (id : DatasetId) : id ∈ order.map (·.1) ↔ id ∈ order'.map (·.1) :=
    ((perm.trans perm'.symm).map (·.1)).mem_iff
  have turned (id : DatasetId) : id ∈ family.map (·.1) → id ∈ order.map (·.1) :=
    (perm.map (·.1)).mem_iff.2
  have rows (id : DatasetId) : c.values.find? id = c'.values.find? id := by
    ext l
    rw [drawn.rows id (turned id), drawn'.rows id fun known => (members id).1 (turned id known)]
  have schemas (id : DatasetId) : c.schemas.find? id = c'.schemas.find? id := by
    rw [passed.schemas id, passed'.schemas id, output_congr views (rows id),
      schemaOf_congr inferences]
    simp only [members]
  obtain ⟨values, schemaTable, _, _⟩ := c
  obtain ⟨values', schemaTable', _, _⟩ := c'
  obtain rfl : values = values' := Table.ext_find? rows
  obtain rfl : schemaTable = schemaTable' := Table.ext_find? schemas
  cases views
  cases inferences
  rfl

end

/-! ## Coming back to a data set -/

/-- A data set that is loaded has the rows of another one. -/
def Follows (id source : DatasetId) (c : Cache) : Prop :=
  ∀ l, c.values.find? id = some l → c.values.find? source = some l

namespace Follows

variable {c : Cache} {id source : DatasetId} {props : Props}

theorem perform (h : Follows id source c) (covered : c.Covered)
    (sourced : props.source = some source) {q : Call} (stays : q.empties = false)
    (alike : ∀ p, q = .load id p → p = props) : Follows id source (c.perform q) := by
  intro l loaded
  rw [(c.find?_perform id covered stays).1] at loaded
  rw [(c.find?_perform source covered stays).1]
  rcases Option.or_eq_some_iff.1 loaded with old | ⟨-, new⟩
  · rw [h l old]
    rfl
  · -- Rows that are new for the data set come from its source, which had them already.
    by_cases own : q.dataset? = some id
    · rw [if_pos own] at new
      cases q with
      | load n p =>
          cases own
          cases alike p rfl
          have drawn : c.values.find? source = some l := by
            rw [rowsFrom?, loadedFor, sourced] at new
            exact new
          rw [drawn]
          rfl
      | _ => cases new
    · rw [if_neg own] at new
      cases new

theorem after (sourced : props.source = some source) (turns : List Turn)
    (stays : ∀ q, .call q ∈ turns → q.empties = false)
    (alike : ∀ p, .call (.load id p) ∈ turns → p = props) :
    ∀ {c : Cache}, c.Sound → Follows id source c → Follows id source (c.after turns) := by
  induction turns with
  | nil => exact fun _ h => h
  | cons t turns ih =>
      intro c sound h
      refine ih (fun q hq => stays q (List.mem_cons_of_mem t hq))
        (fun p hp => alike p (List.mem_cons_of_mem t hp)) (sound.turn t) ?_
      cases t with
      | change view inference => exact h
      | call q =>
          refine h.perform sound.covered sourced (stays q List.mem_cons_self) ?_
          rintro p rfl
          exact alike p List.mem_cons_self

/-- A data set gets the rows of its source once that has some. -/
theorem load (h : Follows id source c) (sourced : props.source = some source) {l : Loaded}
    (ready : c.values.find? source = some l) :
    (c.load id props).value = some l.rows ∧
      (c.load id props).cache.values.find? id = some l := by
  have gets : (c.load id props).cache.values.find? id = some l := by
    rw [find?_values_load, if_pos rfl, loadedFor, sourced]
    cases loaded : c.values.find? id with
    | none => exact ready
    | some l' =>
        obtain rfl := Option.some.inj ((h l' loaded).symm.trans ready)
        rfl
  refine ⟨?_, gets⟩
  rw [value_load, input, gets]
  rfl

end Follows

/-! ## All together -/

/-- What loading a family of data sets, each once, comes to. -/
structure LoadsInAnyOrder (inference : Inference) (view : Option LiveView) (family : Family) :
    Prop where
  /-- If sources come first, the cache does not depend on the order. -/
  same : ∀ order order' : Family, order.Perm family → order'.Perm family → order.SourcesFirst →
    order'.SourcesFirst →
      (start inference view).loadAll order = (start inference view).loadAll order'
  /-- Every chain of sources then has one end. The rows are those given to the data set there; if
  none are given to it, or it is none of the family, there are no rows. -/
  rows : ∀ order : Family, order.Perm family → order.SourcesFirst → ∀ id,
    ∃ root, family.EndsAt id root ∧ (∀ other, family.EndsAt id other → other = root) ∧
      ∀ l, ((start inference view).loadAll order).values.find? id = some l ↔
        l.origin = root ∧ (root, ⟨none, some l.rows⟩) ∈ family
  /-- In any order, what is given to a data set beside a source is not used. -/
  unused : ∀ order order' : Family, order.Perm family →
    List.Forall₂ (fun e e' => e.1 = e'.1 ∧ e.2.source = e'.2.source ∧
      (e.2.source = none → e.2.values = e'.2.values)) order order' →
        (start inference view).loadAll order = (start inference view).loadAll order'
  /-- In any order, a data set whose source is not loaded at its turn is not loaded either. -/
  unready : ∀ before later id props source, (before ++ (id, props) :: later).Perm family →
    props.source = some source →
      ((start inference view).loadAll before).values.find? source = none →
        (((start inference view).loadAll before).load id props).value = none ∧
        (((start inference view).loadAll before).load id props).cache.values =
          ((start inference view).loadAll before).values ∧
        ((start inference view).loadAll (before ++ (id, props) :: later)).values.find? id = none
  /-- It gets the rows of its source when it is loaded once more, at any time after the source, if
  in between the cache is not emptied and the data set not loaded from anything else. -/
  again : ∀ before later id props source, (before ++ (id, props) :: later).Perm family →
    props.source = some source →
      ((start inference view).loadAll before).values.find? source = none →
        ∀ turns : List Turn, (∀ q, .call q ∈ turns → q.empties = false) →
          (∀ p, .call (.load id p) ∈ turns → p = props) → ∀ l,
            let c := (((start inference view).loadAll before).load id props).cache.after turns
            c.values.find? source = some l →
              (c.load id props).value = some l.rows ∧
                (c.load id props).cache.values.find? id = some l

/-- **Data sets may be loaded in any order** that puts sources first. Whatever the live view shows
and however types are inferred, and for every family, with chains of sources of any form. -/
theorem loads_in_any_order (inference : Inference) (view : Option LiveView) (family : Family)
    (distinct : (family.map (·.1)).Nodup) : LoadsInAnyOrder inference view family := by
  have turn {before later : Family} {id : DatasetId} {props : Props}
      (perm : (before ++ (id, props) :: later).Perm family) :
      Passed before ((start inference view).loadAll before) ∧
        id ∉ before.map (·.1) ∧ id ∉ later.map (·.1) := by
    have apart := (perm.map (·.1)).nodup_iff.2 distinct
    refine ⟨passed_loadAll inference view ?_, Family.not_mem_beside apart⟩
    rw [List.map_append] at apart
    exact (List.nodup_append.1 apart).1
  refine ⟨?_, ?_, ?_, ?_, ?_⟩
  · intro order order' perm perm' sources sources'
    exact loadAll_eq_of_perm inference view distinct perm perm' sources sources'
  · intro order perm sources id
    have drawn := drawn_loadAll inference view distinct perm sources
    have turned : id ∈ family.map (·.1) → id ∈ order.map (·.1) := (perm.map (·.1)).mem_iff.2
    obtain ⟨root, chain⟩ := drawn.traced id turned
    refine ⟨root, chain, fun other => chain.unique distinct, fun l => ?_⟩
    rw [drawn.rows id turned l]
    constructor
    · rintro ⟨chain', given⟩
      obtain rfl := chain.unique distinct chain'
      exact ⟨rfl, given⟩
    · rintro ⟨rfl, given⟩
      exact ⟨chain, given⟩
  · intro order order' _ alike
    exact loadAll_congr alike _
  · intro before later id props source perm sourced unready
    obtain ⟨passed, earlier, later'⟩ := turn perm
    have unloaded := passed.unloaded id earlier
    obtain ⟨nothing, values⟩ := load_of_unready _ id props unloaded sourced unready
    refine ⟨nothing, values, ?_⟩
    rw [loadAll_append]
    refine (find?_values_loadAll_of_not_mem later').trans ?_
    rw [values, unloaded]
  · intro before later id props source perm sourced unready turns stays alike l c ready
    obtain ⟨passed, earlier, -⟩ := turn perm
    have unloaded := passed.unloaded id earlier
    obtain ⟨-, values⟩ := load_of_unready _ id props unloaded sourced unready
    -- After a turn that loaded nothing there are no rows that could be others than the source's.
    have follows : Follows id source
        (((start inference view).loadAll before).load id props).cache := by
      intro l loaded
      rw [values, unloaded] at loaded
      cases loaded
    have sound := passed.sound.perform (.load id props)
    exact (follows.after sourced turns stays alike sound).load sourced ready

/-- Two data sets in a row behind a third, and one whose source is none of the family. -/
def derivedFamily : Family :=
  [(1, ⟨none, some [.obj [("a", .int 1)]]⟩), (2, ⟨some 1, some [.null]⟩), (3, ⟨some 2, none⟩),
    (4, ⟨some 9, some []⟩)]

/-- The fourth may come first. The third has the rows of the first; if it comes first itself, it
gets them when it is loaded once more behind the second. -/
theorem loads_in_any_order_derived :
    (derivedFamily.map (·.1)).Nodup ∧
      (start DataType.inferAll none).loadAll derivedFamily =
        (start DataType.inferAll none).loadAll
          ((4, ⟨some 9, some []⟩) :: derivedFamily.take 3) ∧
      ((start DataType.inferAll none).loadAll derivedFamily).values.find? 3 =
        some ⟨1, [.obj [("a", .int 1)]]⟩ ∧
      ((start DataType.inferAll none).load 3 ⟨some 2, none⟩).value = none ∧
      ((((start DataType.inferAll none).load 3 ⟨some 2, none⟩).cache.after
        ((derivedFamily.take 2).map fun e => .call (.load e.1 e.2))).load 3 ⟨some 2, none⟩).value =
          some [.obj [("a", .int 1)]] := by
  have distinct : (derivedFamily.map (·.1)).Nodup := by decide
  have free := loads_in_any_order DataType.inferAll none derivedFamily distinct
  have moved : ((4, ⟨some 9, some []⟩) :: derivedFamily.take 3).Perm derivedFamily :=
    (List.perm_append_singleton _ (derivedFamily.take 3)).symm
  have sources : Family.SourcesFirst derivedFamily := ⟨by decide, by decide⟩
  have sources' : Family.SourcesFirst ((4, ⟨some 9, some []⟩) :: derivedFamily.take 3) :=
    ⟨by decide, by decide⟩
  have third : (3, ⟨some 2, none⟩) ∈ derivedFamily := by simp [derivedFamily]
  have second : (2, ⟨some 1, some [.null]⟩) ∈ derivedFamily := by simp [derivedFamily]
  have first : (1, ⟨none, some [.obj [("a", .int 1)]]⟩) ∈ derivedFamily := by simp [derivedFamily]
  have chain : derivedFamily.EndsAt 3 1 := by
    refine .source third rfl (.source second rfl (.here fun props member => ?_))
    rw [← Family.eq_of_mem distinct first member]
  obtain ⟨root, -, only, rows⟩ := free.rows derivedFamily (.refl _) sources 3
  obtain rfl := only 1 chain
  have last : (((3, ⟨some 2, none⟩) :: derivedFamily.take 2) ++ derivedFamily.drop 3).Perm
      derivedFamily :=
    (List.perm_append_singleton _ (derivedFamily.take 2)).symm.append_right _
  obtain ⟨nothing, -⟩ := free.unready [] _ 3 ⟨some 2, none⟩ 2 last rfl rfl
  obtain ⟨gets, -⟩ := free.again [] _ 3 ⟨some 2, none⟩ 2 last rfl rfl
    ((derivedFamily.take 2).map fun e => .call (.load e.1 e.2))
    (by simp [derivedFamily, Call.empties]) (by simp [derivedFamily]) ⟨1, [.obj [("a", .int 1)]]⟩ rfl
  exact ⟨distinct, free.same _ _ (.refl _) moved sources sources', (rows _).2 ⟨rfl, first⟩, nothing,
    gets⟩

end Cache

end Dataset

end ChartBinding
