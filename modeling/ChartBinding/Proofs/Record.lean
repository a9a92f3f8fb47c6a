import ChartBinding.Json.Record
import Mathlib.Data.List.Forall2

/-!
# Laws of records

What a reader of a record found in an object is told field by field (`Gather.finish_seq`). A
written open record is looked into in the same way: under the name of a field stands what was
written for it, under any other name what the record has kept (`RecordShape.Writes`). For both the
kept members have to stay apart from the declared fields, and those that were read do
(`RecordShape.find?_undeclared`).
-/

namespace ChartBinding

/-! ## Tables of members -/

namespace Json

theorem find?_eq_lookup (name : String) (ms : List (String × Json)) :
    Table.Entries.find? name ms = lookup name ms := by
  induction ms with
  | nil => rfl
  | cons m rest ih =>
      by_cases h : name = m.1
      · simp [Table.Entries.find?, lookup, h]
      · simp [Table.Entries.find?, lookup, h, Ne.symm h, ih]

theorem lookup_entries (t : Table String Json) (name : String) :
    lookup name t.entries = t.find? name :=
  (find?_eq_lookup name t.entries).symm

/-- What a table was written as under a name. -/
theorem lookup_map_entries {α : Type} (write : α → Json) (t : Table String α) (name : String) :
    lookup name (t.entries.map fun e => (e.1, write e.2)) = (t.find? name).map write := by
  rw [← Table.find?_map]
  exact lookup_entries (t.map write) name

theorem find?_ofList (ms : List (String × Json)) (name : String) :
    (Table.ofList ms).find? name = lookup name ms := by
  rw [Table.find?_ofList, find?_eq_lookup]

theorem lookup_filter (keep : String → Bool) (name : String) (ms : List (String × Json)) :
    lookup name (ms.filter fun m => keep m.1) = if keep name then lookup name ms else none := by
  induction ms with
  | nil => simp
  | cons m rest ih =>
      obtain ⟨k, v⟩ := m
      by_cases hk : k = name
      · subst hk
        cases kept : keep k with
        | true => simp [kept]
        | false => simpa [kept] using ih
      · cases kept : keep k with
        | true => simpa [kept, hk] using ih
        | false => simpa [kept, hk] using ih

theorem lookup_eq_none_iff {name : String} {ms : List (String × Json)} :
    lookup name ms = none ↔ name ∉ ms.map (·.1) := by
  induction ms with
  | nil => simp
  | cons m rest ih =>
      obtain ⟨k, v⟩ := m
      rw [lookup_cons, List.map_cons, List.mem_cons]
      by_cases h : k = name
      · simp [h]
      · simp only [h, if_false, ih, Ne.symm h, false_or]

theorem lookup_of_mem {α : Type} {fields : List (String × α)} (distinct : (fields.map (·.1)).Nodup)
    {name : String} {w : α} (h : (name, w) ∈ fields) : fields.lookup name = some w := by
  induction fields with
  | nil => cases h
  | cons f rest ih =>
      obtain ⟨k, w'⟩ := f
      obtain ⟨fresh, distinct⟩ := List.nodup_cons.1 distinct
      rcases List.mem_cons.1 h with same | later
      · cases same
        exact List.lookup_cons_self
      · have other : (name == k) = false :=
          beq_eq_false_iff_ne.2 fun same => fresh (List.mem_map.2 ⟨(name, w), later, same⟩)
        rw [List.lookup_cons, other]
        exact ih distinct later

theorem names_ofFields (fields : List (String × Option Json)) :
    ((ofFields fields).map (·.1)).Sublist (fields.map (·.1)) := by
  induction fields with
  | nil => exact .slnil
  | cons f rest ih =>
      obtain ⟨k, _ | w⟩ := f
      · exact .cons k ih
      · exact .cons_cons k ih

/-- The entries of a table are found under names that occur once. -/
theorem nodup_entries {α : Type} (t : Table String α) : (t.entries.map (·.1)).Nodup := by
  refine List.pairwise_map.2 (t.increasing.imp fun lt same => ?_)
  rw [same, Std.ReflOrd.compare_self] at lt
  cases lt

end Json

/-! ## What was found -/

namespace Gather

variable {α β : Type}

theorem finish_map {f : α → β} {x : Gather α} {b : β} :
    (f <$> x).finish = .ok b ↔ ∃ a, x.finish = .ok a ∧ b = f a := by
  show (pure f <*> x).finish = _ ↔ _
  rw [finish_seq]
  constructor
  · rintro ⟨h, a, hf, hx, rfl⟩
    obtain rfl := Except.ok.inj hf
    exact ⟨a, hx, rfl⟩
  · rintro ⟨a, hx, rfl⟩
    exact ⟨f, a, rfl, hx, rfl⟩

end Gather

theorem Reader.map_eq_ok_iff {α β : Type} {f : α → β} {r : Except ReadError α} {b : β} :
    r.map f = .ok b ↔ ∃ a, r = .ok a ∧ f a = b := by
  cases r <;> simp [Except.map]

namespace Json

variable {α : Type} {read : Reader α}

theorem readOption_of_ne_null {v : Json} (h : v ≠ .null) :
    readOption read v = (read v).map some := by
  cases v <;> first | rfl | exact absurd rfl h

theorem readOption_eq_some_iff {v : Json} {a : α} :
    readOption read v = .ok (some a) ↔ v ≠ .null ∧ read v = .ok a := by
  by_cases h : v = .null
  · subst h
    simp [readOption]
  · rw [readOption_of_ne_null h, Reader.map_eq_ok_iff]
    simp [h]

theorem readOption_eq_none_iff {v : Json} : readOption read v = .ok none ↔ v = .null := by
  by_cases h : v = .null
  · subst h
    simp [readOption]
  · rw [readOption_of_ne_null h, Reader.map_eq_ok_iff]
    simp [h]

theorem mapM_eq_ok_iff {β : Type} {read : β → Except ReadError α} {vs : List β} {xs : List α} :
    vs.mapM read = .ok xs ↔ List.Forall₂ (fun v x => read v = .ok x) vs xs := by
  induction vs generalizing xs with
  | nil =>
      rw [List.mapM_nil, List.forall₂_nil_left_iff]
      exact ⟨fun h => (Except.ok.inj h).symm, fun h => by rw [h]; rfl⟩
  | cons v rest ih =>
      rw [List.mapM_cons, List.forall₂_cons_left_iff]
      constructor
      · intro h
        cases first : read v with
        | error e => simp [first, bind, Except.bind] at h
        | ok x =>
            cases later : rest.mapM read with
            | error e => simp [first, later, bind, Except.bind] at h
            | ok xs' =>
                refine ⟨x, xs', rfl, ih.1 later, ?_⟩
                simpa [first, later, bind, Except.bind, pure, Except.pure] using h.symm
      · rintro ⟨x, xs', first, later, rfl⟩
        rw [first, ih.2 later]
        rfl

/-- What a table has under a name was read from the member of that name. -/
theorem find?_of_readMembers {ms : List (String × Json)} {t : Table String α}
    (reads : readMembers read ms = .ok t) (name : String) :
    (lookup name ms = none ∧ t.find? name = none) ∨
      ∃ v a, lookup name ms = some v ∧ t.find? name = some a ∧ read v = .ok a := by
  obtain ⟨es, members, rfl⟩ := Reader.map_eq_ok_iff.1 reads
  have each := mapM_eq_ok_iff.1 members
  rw [Table.find?_ofList]
  clear reads members
  induction each with
  | nil => exact .inl ⟨rfl, rfl⟩
  | @cons m e ms es first later ih =>
      obtain ⟨a, reads, rfl⟩ := Reader.map_eq_ok_iff.1 first
      by_cases here : m.1 = name
      · exact .inr ⟨m.2, a, by simp [lookup, here], by simp [Table.Entries.find?, here], reads⟩
      · have other : compare name m.1 ≠ .eq := fun same =>
          here (Std.LawfulEqOrd.eq_of_compare same).symm
        simpa [lookup, Table.Entries.find?, here, other] using ih

/-- A list is read element by element. -/
theorem readList_eq_ok_iff {v : Json} {xs : List α} :
    readList read v = .ok xs ↔
      ∃ vs, v = .arr vs ∧ List.Forall₂ (fun v x => read v = .ok x) vs xs := by
  cases v <;> simp [readList, mapM_eq_ok_iff]

end Json

namespace Source

variable {α : Type} {ms : List (String × Json)} {name : String} {read : Reader α}

/-- A member is found at its position exactly if it is found by its name. -/
theorem locate_cases (name : String) (ms : List (String × Json)) :
    (Json.locate name 0 ms = none ∧ Json.lookup name ms = none) ∨
      ∃ f, Json.locate name 0 ms = some f ∧ Json.lookup name ms = some f.2 := by
  rw [← map_locate name 0 ms]
  cases Json.locate name 0 ms with
  | none => exact .inl ⟨rfl, rfl⟩
  | some f => exact .inr ⟨f, rfl, rfl⟩

/-- An optional field that has a value is there, is not null, and reads. -/
theorem finish_optional_some {a : α} :
    ((members ms).optional name read).finish = .ok (some a) ↔
      ∃ v, Json.lookup name ms = some v ∧ v ≠ .null ∧ read v = .ok a := by
  rw [finish_optional]
  simp only [Json.readOption_eq_some_iff, reduceCtorEq, and_false, false_or]

/-- An optional field that has no value is absent or null. -/
theorem finish_optional_none :
    ((members ms).optional name read).finish = .ok none ↔
      Json.lookup name ms = none ∨ Json.lookup name ms = some .null := by
  rw [finish_optional]
  simp only [Json.readOption_eq_none_iff, and_true, exists_eq_right]

/-- An optional field is read from where it was written. -/
theorem finish_optional_of_read_write {write : α → Json} {a : Option α}
    (here : Json.lookup name ms = a.map write) (back : ∀ x ∈ a, read (write x) = .ok x)
    (given : ∀ x ∈ a, write x ≠ .null) :
    ((members ms).optional name read).finish = .ok a := by
  cases a with
  | none => exact finish_optional_none.2 (.inl here)
  | some x => exact finish_optional_some.2 ⟨write x, here, given x rfl, back x rfl⟩

/-- A list that may be absent is empty then; otherwise each element reads. -/
theorem finish_listed {xs : List α} :
    ((members ms).withDefault name [] (Json.readList read)).finish = .ok xs ↔
      (Json.lookup name ms = none ∧ xs = []) ∨
        ∃ vs, Json.lookup name ms = some (.arr vs) ∧
          List.Forall₂ (fun v x => read v = .ok x) vs xs := by
  rw [finish_withDefault]
  refine or_congr_right ⟨?_, ?_⟩
  · rintro ⟨v, found, reads⟩
    obtain ⟨vs, rfl, each⟩ := Json.readList_eq_ok_iff.1 reads
    exact ⟨vs, found, each⟩
  · rintro ⟨vs, found, each⟩
    exact ⟨.arr vs, found, Json.readList_eq_ok_iff.2 ⟨vs, rfl, each⟩⟩

end Source

namespace RecordShape

variable {α : Type} {shape : RecordShape}

theorem readOpen_eq_ok_iff {fields : Source → Table String Json → Gather α} {v : Json} {a : α} :
    shape.readOpen fields v = .ok a ↔
      ∃ ms, v = .obj ms ∧ (fields (.members ms) (shape.undeclared ms)).finish = .ok a := by
  cases v <;> simp [readOpen]

/-- The kept members are those under names that are not declared. -/
theorem find?_undeclared (shape : RecordShape) (ms : List (String × Json)) (name : String) :
    (shape.undeclared ms).find? name =
      if name ∈ shape.fields then none else Json.lookup name ms := by
  rw [undeclared, Json.find?_ofList, Json.lookup_filter fun k => !shape.fields.contains k]
  by_cases declared : name ∈ shape.fields <;> simp [declared]

/-! ## What is written -/

/-- None of the kept members has a declared name. -/
def Apart (shape : RecordShape) (extra : Table String Json) : Prop :=
  ∀ name ∈ shape.fields, extra.find? name = none

instance (shape : RecordShape) (extra : Table String Json) : Decidable (shape.Apart extra) :=
  inferInstanceAs (Decidable (∀ name ∈ shape.fields, extra.find? name = none))

theorem apart_undeclared (shape : RecordShape) (ms : List (String × Json)) :
    shape.Apart (shape.undeclared ms) := by
  intro name declared
  rw [find?_undeclared, if_pos declared]

/-- A value is the written form of an open record: its fields are written under declared names, in
the order of declaration, and none of the kept members has a declared name. -/
structure Writes (shape : RecordShape) (fields : List (String × Option Json))
    (extra : Table String Json) (ns : List (String × Json)) : Prop where
  members : ns = Json.ofFields fields ++ extra.entries
  declared : (fields.map (·.1)).Sublist shape.fields
  distinct : shape.fields.Nodup
  apart : ∀ name ∈ shape.fields, extra.find? name = none

namespace Writes

variable {fields : List (String × Option Json)} {extra : Table String Json}
  {ns : List (String × Json)}

/-- A record that keeps its members apart from its fields is written as both. -/
theorem of_apart {w : Json} (written : w = Json.openRecord fields extra) (apart : shape.Apart extra)
    (declared : (fields.map (·.1)).Sublist shape.fields) (distinct : shape.fields.Nodup) :
    ∃ ns, w = .obj ns ∧ shape.Writes fields extra ns :=
  ⟨_, written, rfl, declared, distinct, apart⟩

/-- The record that was read from `ms` is written as `w`, apart from its fields as they were. -/
theorem of_undeclared {w : Json} {ms : List (String × Json)}
    (written : w = Json.openRecord fields extra) (kept : extra = shape.undeclared ms)
    (declared : (fields.map (·.1)).Sublist shape.fields) (distinct : shape.fields.Nodup) :
    ∃ ns, w = .obj ns ∧ shape.Writes fields extra ns := by
  subst kept
  exact of_apart written (shape.apart_undeclared ms) declared distinct

/-- A plain record is written like an open one that has kept nothing. -/
theorem of_plainRecord {w : Json} (written : w = Json.plainRecord fields)
    (declared : (fields.map (·.1)).Sublist shape.fields) (distinct : shape.fields.Nodup) :
    ∃ ns, w = .obj ns ∧ shape.Writes fields ∅ ns := by
  refine ⟨_, written, ?_, declared, distinct, fun _ _ => rfl⟩
  show _ = Json.ofFields fields ++ []
  rw [List.append_nil]

theorem lookup_fields (h : shape.Writes fields extra ns) (name : String) :
    Json.lookup name (Json.ofFields fields) = (fields.lookup name).join :=
  Json.lookup_ofFields name fields (h.declared.nodup h.distinct)

/-- Under the name of a field stands what was written for it. -/
theorem lookup_field (h : shape.Writes fields extra ns) {name : String} {w : Option Json}
    (field : (name, w) ∈ fields) : Json.lookup name ns = w := by
  have here : fields.lookup name = some w :=
    Json.lookup_of_mem (h.declared.nodup h.distinct) field
  have declared : name ∈ shape.fields := h.declared.subset (List.mem_map_of_mem field)
  rw [h.members, Json.lookup_append, h.lookup_fields, here, Json.lookup_entries,
    h.apart name declared, Option.or_none]
  rfl

/-- Under any other name stands the member that was kept. -/
theorem lookup_of_not_mem (h : shape.Writes fields extra ns) {name : String}
    (other : name ∉ fields.map (·.1)) : Json.lookup name ns = extra.find? name := by
  have none : fields.lookup name = none := by
    rw [List.lookup_eq_none_iff]
    intro f hf
    simpa using fun same : name = f.1 => other (List.mem_map.2 ⟨f, hf, same.symm⟩)
  rw [h.members, Json.lookup_append, h.lookup_fields, none, Json.lookup_entries]
  rfl

/-- Under a name that is not declared stands what stood there when the record was read. -/
theorem lookup_undeclared (h : shape.Writes fields extra ns) {ms : List (String × Json)}
    (kept : extra = shape.undeclared ms) {name : String} (other : name ∉ shape.fields) :
    Json.lookup name ns = Json.lookup name ms := by
  rw [h.lookup_of_not_mem fun field => other (h.declared.subset field), kept, find?_undeclared,
    if_neg other]

/-- What was kept is kept again. -/
theorem undeclared_eq (h : shape.Writes fields extra ns) : shape.undeclared ns = extra := by
  apply Table.ext_find?
  intro name
  rw [find?_undeclared]
  by_cases declared : name ∈ shape.fields
  · rw [if_pos declared, h.apart name declared]
  · rw [if_neg declared, h.lookup_of_not_mem fun field => declared (h.declared.subset field)]

/-- No name is written twice. -/
theorem nodup_names (h : shape.Writes fields extra ns) : (ns.map (·.1)).Nodup := by
  have names : ((Json.ofFields fields).map (·.1)).Sublist shape.fields :=
    (Json.names_ofFields fields).trans h.declared
  rw [h.members, List.map_append, List.nodup_append]
  refine ⟨names.nodup h.distinct, Json.nodup_entries extra, ?_⟩
  rintro name field other kept rfl
  have absent := h.apart name (names.subset field)
  rw [← Json.lookup_entries, Json.lookup_eq_none_iff] at absent
  exact absent kept

end Writes

end RecordShape

end ChartBinding
