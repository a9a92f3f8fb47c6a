import ChartBinding.Proofs.ColumnTypes
import ChartBinding.Proofs.Record

/-!
# The fields of rows

The first row says which fields there are. All other rows are only asked for their values under
these fields, so two lists of later rows that have the same values there, nulls apart, are given the
same types (`DataType.inferAll_congr`). What may be done to later rows without any effect are the
cases of this: put them in another order, take out rows without such values, take out nulls, add
members under other names. More rows can widen a type, as more values can.
-/

namespace ChartBinding

namespace Json

/-- A value without its members of one name. -/
def without (name : String) : Json → Json
  | .obj members => .obj (members.filter fun m => m.1 ≠ name)
  | v => v

theorem get?_without (name k : String) (v : Json) :
    (v.without name).get? k = if k = name then none else v.get? k := by
  cases v with
  | obj members =>
      show lookup k (members.filter fun m => decide (m.1 ≠ name)) = _
      rw [lookup_filter (fun n => decide (n ≠ name))]
      by_cases same : k = name
      · simp [same]
      · simp [same, get?]
  | _ => exact (ite_self none).symm

/-- A member among others does not count under other names. -/
theorem get?_obj_insert {name k : String} (other : k ≠ name) (v : Json)
    (before after : List (String × Json)) :
    (obj (before ++ (name, v) :: after)).get? k = (obj (before ++ after)).get? k := by
  show lookup k (before ++ (name, v) :: after) = lookup k (before ++ after)
  rw [lookup_append, lookup_append, lookup_cons, if_neg other.symm]

end Json

/-! ## Lists without repetition -/

theorem eraseDups_sublist {α : Type} [BEq α] [LawfulBEq α] :
    ∀ l : List α, l.eraseDups.Sublist l
  | [] => .slnil
  | a :: l => by
      rw [List.eraseDups_cons]
      exact ((eraseDups_sublist _).trans List.filter_sublist).cons_cons a
termination_by l => l.length
decreasing_by exact Nat.lt_succ_of_le (List.length_filter_le _ l)

theorem nodup_eraseDups {α : Type} [BEq α] [LawfulBEq α] : ∀ l : List α, l.eraseDups.Nodup
  | [] => .nil
  | a :: l => by
      rw [List.eraseDups_cons]
      refine List.nodup_cons.2 ⟨?_, nodup_eraseDups _⟩
      rw [List.mem_eraseDups, List.mem_filter]
      rintro ⟨-, other⟩
      simp at other
termination_by l => l.length
decreasing_by exact Nat.lt_succ_of_le (List.length_filter_le _ l)

namespace DataType

/-! ## Names -/

/-- Later rows have no say in which fields there are. -/
theorem fieldsOf_cons (first : Json) (later : List Json) :
    fieldsOf (first :: later) = fieldsOf [first] := by
  cases first <;> rfl

theorem mem_fieldsOf_iff {first : Json} {k : String} :
    k ∈ fieldsOf [first] ↔ (first.get? k).isSome := by
  cases first with
  | obj members =>
      show k ∈ (members.map (·.1)).eraseDups ↔ (Json.lookup k members).isSome
      rw [List.mem_eraseDups, Option.isSome_iff_ne_none, ne_eq, Json.lookup_eq_none_iff, not_not]
  | _ => simp [fieldsOf, Json.get?]

theorem nodup_fieldsOf (first : Json) : (fieldsOf [first]).Nodup := by
  cases first with
  | obj members => exact nodup_eraseDups _
  | _ => exact .nil

theorem map_fst_inferAll (first : Json) (later : List Json) :
    (inferAll (first :: later)).map (·.1) = fieldsOf [first] := by
  rw [inferAll, List.map_map, ← fieldsOf_cons first later]
  exact List.map_id' _

theorem map_fst_inferAll_sublist (members : List (String × Json)) (later : List Json) :
    ((inferAll (.obj members :: later)).map (·.1)).Sublist (members.map (·.1)) := by
  rw [map_fst_inferAll]
  exact eraseDups_sublist _

/-- If a first row has no name twice, its names are the fields as they stand. -/
theorem map_fst_inferAll_of_nodup {members : List (String × Json)} (later : List Json)
    (distinct : (members.map (·.1)).Nodup) :
    (inferAll (.obj members :: later)).map (·.1) = members.map (·.1) := by
  refine (map_fst_inferAll_sublist members later).eq_of_length (List.Perm.length_eq ?_)
  rw [map_fst_inferAll]
  exact (List.perm_ext_iff_of_nodup (nodup_fieldsOf _) distinct).2 fun _ => List.mem_eraseDups

theorem inferAll_of_no_object {first : Json} (later : List Json)
    (no_object : ∀ members, first ≠ .obj members) : inferAll (first :: later) = [] := by
  cases first with
  | obj members => exact absurd rfl (no_object members)
  | _ => rfl

theorem mem_inferAll_iff {rows : List Json} {k : String} {t : DataType} :
    (k, t) ∈ inferAll rows ↔ k ∈ fieldsOf rows ∧ t = infer (column k rows) := by
  rw [inferAll, List.mem_map]
  constructor
  · rintro ⟨k', there, same⟩
    cases same
    exact ⟨there, rfl⟩
  · rintro ⟨there, rfl⟩
    exact ⟨k, there, rfl⟩

/-! ## Columns -/

theorem column_append (k : String) (rows more : List Json) :
    column k (rows ++ more) = column k rows ++ column k more :=
  List.filterMap_append

theorem column_cons (k : String) (row : Json) (rows : List Json) :
    column k (row :: rows) = (row.get? k).toList ++ column k rows := by
  unfold column
  cases found : row.get? k with
  | none => rw [List.filterMap_cons_none found]; rfl
  | some v => rw [List.filterMap_cons_some found]; rfl

namespace SameValues

theorem refl (xs : List Json) : SameValues xs xs := fun _ _ => .rfl

theorem append {xs xs' ys ys' : List Json} (first : SameValues xs xs')
    (second : SameValues ys ys') : SameValues (xs ++ ys) (xs' ++ ys') := by
  intro v valued
  rw [List.mem_append, List.mem_append, first v valued, second v valued]

end SameValues

/-! ## Changes of later rows -/

section

variable {first : Json}

/-- **Later rows count by their values under the fields of the first.** -/
theorem inferAll_congr {later others : List Json}
    (same : ∀ k ∈ fieldsOf [first], SameValues (column k later) (column k others)) :
    inferAll (first :: later) = inferAll (first :: others) := by
  rw [inferAll, inferAll, fieldsOf_cons first later, fieldsOf_cons first others]
  refine List.map_congr_left fun k there => ?_
  rw [column_cons, column_cons]
  exact congrArg (k, ·) (infer_congr ((SameValues.refl _).append (same k there)))

theorem inferAll_of_perm {later others : List Json} (perm : later.Perm others) :
    inferAll (first :: later) = inferAll (first :: others) := by
  refine inferAll_congr fun k _ v _ => ?_
  exact (perm.filterMap _).mem_iff

variable {row row' : Json} (before after : List Json)

theorem inferAll_without_row (lacking : ∀ k ∈ fieldsOf [first], row.get? k = none) :
    inferAll (first :: (before ++ after)) = inferAll (first :: (before ++ row :: after)) := by
  refine inferAll_congr fun k there => ?_
  rw [column_append, column_append, column_cons, lacking k there]
  exact SameValues.refl _

/-- One row may be changed as long as its values under the fields stay. A null is no value. -/
theorem inferAll_congr_row
    (same : ∀ k ∈ fieldsOf [first], SameValues (row'.get? k).toList (row.get? k).toList) :
    inferAll (first :: (before ++ row' :: after)) =
      inferAll (first :: (before ++ row :: after)) := by
  refine inferAll_congr fun k there => ?_
  rw [column_append, column_append, column_cons, column_cons]
  exact (SameValues.refl _).append ((same k there).append (SameValues.refl _))

theorem inferAll_without_null {k : String} (null : row.get? k = some .null) :
    inferAll (first :: (before ++ row.without k :: after)) =
      inferAll (first :: (before ++ row :: after)) := by
  refine inferAll_congr_row before after fun k' _ v valued => ?_
  rw [Json.get?_without]
  by_cases same : k' = k
  · -- The null stands in one of the two rows only, and it is not what is asked for.
    have other : v ≠ .null := by
      rintro rfl
      cases valued
    rw [if_pos same, same, null]
    simp [other]
  · rw [if_neg same]

theorem inferAll_with_member {k : String} (v : Json) (members members' : List (String × Json))
    (absent : first.get? k = none) :
    inferAll (first :: (before ++ .obj (members ++ (k, v) :: members') :: after)) =
      inferAll (first :: (before ++ .obj (members ++ members') :: after)) := by
  refine inferAll_congr_row before after fun k' there => ?_
  have other : k' ≠ k := by
    rintro rfl
    rw [mem_fieldsOf_iff, absent] at there
    cases there
  rw [Json.get?_obj_insert other]
  exact SameValues.refl _

end

/-! ## More rows -/

theorem infer_le_append {xs : List Json} (known : ∃ v ∈ xs, v.isNull = false) (ys : List Json) :
    infer xs ≤ infer (xs ++ ys) := by
  refine (isLeast_infer known).2 (fits_iff.2 ?_)
  intro v there
  exact fits_iff.1 (fits_infer (xs ++ ys)) v (List.mem_append_left ys there)

/-- The type of a column stays or gets wider with more rows, unless it was the type of nulls. -/
theorem infer_column_append (k : String) (rows more : List Json) :
    infer (column k rows) ≤ infer (column k (rows ++ more)) ∨
      infer (column k rows) = boolean ∧ ∀ v ∈ column k rows, v.isNull = true := by
  rw [column_append]
  by_cases known : ∃ v ∈ column k rows, v.isNull = false
  · exact .inl (infer_le_append known _)
  · have nulls : ∀ v ∈ column k rows, v.isNull = true := by
      intro v there
      rw [← Bool.not_eq_false]
      exact fun valued => known ⟨v, there, valued⟩
    exact .inr ⟨infer_of_nulls nulls, nulls⟩

/-! ## All together -/

/-- What the fields of rows and their types owe to the first row, and what to the later ones. -/
structure FollowsFirstRow (first : Json) (later : List Json) : Prop where
  /-- The fields are the names in the first row, each once. -/
  names : ∀ k, k ∈ (inferAll (first :: later)).map (·.1) ↔ (first.get? k).isSome
  each_once : ((inferAll (first :: later)).map (·.1)).Nodup
  /-- They have the order of the first row. If no name stands there twice, they are its names. -/
  in_order : ∀ members, first = .obj members →
    ((inferAll (first :: later)).map (·.1)).Sublist (members.map (·.1)) ∧
      ((members.map (·.1)).Nodup →
        (inferAll (first :: later)).map (·.1) = members.map (·.1))
  no_object : (∀ members, first ≠ .obj members) → inferAll (first :: later) = []
  /-- A field has the type of its values in all rows. -/
  typed : ∀ k t, (k, t) ∈ inferAll (first :: later) →
    t = infer ((first :: later).filterMap fun row => row.get? k)
  reordered : ∀ others, later.Perm others →
    inferAll (first :: others) = inferAll (first :: later)
  /-- A row that is no object, or has none of the fields, may be taken out. -/
  taken_out : ∀ before row after, later = before ++ row :: after →
    ((∀ members, row ≠ .obj members) ∨ ∀ k, (first.get? k).isSome → row.get? k = none) →
      inferAll (first :: (before ++ after)) = inferAll (first :: later)
  /-- A null may be taken out of a row, whether it stands under one of the fields or not. -/
  null_taken_out : ∀ before row after k, later = before ++ row :: after →
    row.get? k = some .null →
      inferAll (first :: (before ++ row.without k :: after)) = inferAll (first :: later)
  /-- A member under another name may be put into a row, at any place. -/
  put_in : ∀ before members members' after k v,
    later = before ++ .obj (members ++ members') :: after → first.get? k = none →
      inferAll (first :: (before ++ .obj (members ++ (k, v) :: members') :: after)) =
        inferAll (first :: later)
  /-- More rows bring no field and take none away. The type of a field stays or gets wider, unless
  it was the type of nulls. -/
  followed : ∀ more,
    (inferAll (first :: (later ++ more))).map (·.1) = (inferAll (first :: later)).map (·.1) ∧
      ∀ k t t', (k, t) ∈ inferAll (first :: later) → (k, t') ∈ inferAll (first :: (later ++ more)) →
        t ≤ t' ∨ t = boolean ∧
          ∀ v ∈ (first :: later).filterMap fun row => row.get? k, v.isNull = true

/-- **Fields follow the first row.** There are none without a first row; with one, in any list of
rows, whether they are objects or not and whatever they have in common. -/
theorem inferAll_follows_first_row :
    inferAll [] = [] ∧ ∀ first later, FollowsFirstRow first later := by
  refine ⟨rfl, fun first later => ?_⟩
  refine ⟨?_, ?_, ?_, inferAll_of_no_object later, ?_, ?_, ?_, ?_, ?_, ?_⟩
  · intro k
    rw [map_fst_inferAll, mem_fieldsOf_iff]
  · rw [map_fst_inferAll]
    exact nodup_fieldsOf first
  · rintro members rfl
    exact ⟨map_fst_inferAll_sublist members later, map_fst_inferAll_of_nodup later⟩
  · intro k t there
    exact (mem_inferAll_iff.1 there).2
  · intro others perm
    exact (inferAll_of_perm perm).symm
  · rintro before row after rfl idle
    refine inferAll_without_row before after fun k there => ?_
    rcases idle with no_object | lacking
    · cases row with
      | obj members => exact absurd rfl (no_object members)
      | _ => rfl
    · exact lacking k (mem_fieldsOf_iff.1 there)
  · rintro before row after k rfl null
    exact inferAll_without_null before after null
  · rintro before members members' after k v rfl absent
    exact inferAll_with_member before after v members members' absent
  · intro more
    refine ⟨by rw [map_fst_inferAll, map_fst_inferAll], fun k t t' alone more_rows => ?_⟩
    obtain ⟨-, rfl⟩ := mem_inferAll_iff.1 alone
    obtain ⟨-, rfl⟩ := mem_inferAll_iff.1 more_rows
    exact infer_column_append k (first :: later) more

/-- Where there is no first row yet, more rows do bring fields. -/
theorem first_row_brings_fields :
    ¬ ∀ rows more : List Json,
      (inferAll (rows ++ more)).map (·.1) = (inferAll rows).map (·.1) := by
  intro h
  have brought := h [] [.obj [("a", .int 1)]]
  rw [List.nil_append, map_fst_inferAll] at brought
  exact absurd brought (List.cons_ne_nil "a" [])

end DataType

end ChartBinding
