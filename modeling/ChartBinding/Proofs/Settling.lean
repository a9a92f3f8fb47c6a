import ChartBinding.Proofs.Pipeline
import ChartBinding.Proofs.Readings

/-!
# One pass of reading and writing

A value *settles* if, once it has been read, it is read again from its written form
(`Settles`). Nothing is asked of values that are not read from anything: a record may have kept a
member under the name of one of its fields, and then its written form has that name twice.

A record settles if its fields do. For each kind of field: if it was read from one object and its
written form stands in another, then the same is read from the other (`Settles.required`,
`Settles.optional`, `Settles.listed`, `Settles.withDefault`).
-/

namespace ChartBinding

variable {α : Type}

/-! ## Settling -/

/-- A value that was read from anything is read again from its written form. Null means that a
field has no value, so what was read from anything else must not be written as null. -/
structure Settles (read : Reader α) (write : α → Json) (a : α) : Prop where
  again : ∀ {v}, read v = .ok a → read (write a) = .ok a
  given : ∀ {v}, read v = .ok a → v ≠ .null → write a ≠ .null

namespace Settles

variable {read : Reader α} {write : α → Json} {ms ns : List (String × Json)} {name : String}

/-- A type whose values are all read back. -/
theorem of_read_write (back : ∀ a, read (write a) = .ok a) (given : ∀ a, write a ≠ .null) (a : α) :
    Settles read write a :=
  ⟨fun _ => back a, fun _ _ => given a⟩

/-- A value that is written as what it was read from. -/
theorem of_eq {a : α} (same : ∀ {v}, read v = .ok a → write a = v) : Settles read write a where
  again reads := by
    rw [same reads]
    exact reads
  given reads ne := by
    rw [same reads]
    exact ne

/-- A type that has a form for every value. -/
theorem of_forms {form : Json → α} (again : ∀ v, form (write (form v)) = form v)
    (given : ∀ {v}, v ≠ .null → write (form v) ≠ .null) (a : α) :
    Settles (fun v => .ok (form v)) write a where
  again reads := by
    cases reads
    exact congrArg Except.ok (again _)
  given reads ne := by
    cases reads
    exact given ne

/-- A type whose values are written as objects. -/
theorem of_obj {a : α}
    (again : ∀ {v}, read v = .ok a → ∃ ns, write a = .obj ns ∧ read (.obj ns) = .ok a) :
    Settles read write a where
  again reads := by
    obtain ⟨ns, written, rereads⟩ := again reads
    rw [written]
    exact rereads
  given reads _ := by
    obtain ⟨ns, written, -⟩ := again reads
    rw [written]
    exact nofun

/-! ### Fields -/

theorem required {a : α} (settles : Settles read write a)
    (was : ((Source.members ms).required name read).finish = .ok a)
    (here : Json.lookup name ns = some (write a)) :
    ((Source.members ns).required name read).finish = .ok a := by
  obtain ⟨v, -, reads⟩ := Source.finish_required.1 was
  exact Source.finish_required.2 ⟨write a, here, settles.again reads⟩

/-- The field may have been read under another name than it is written under. -/
theorem optional {a : Option α} {name' : String} (settles : ∀ x ∈ a, Settles read write x)
    (was : ((Source.members ms).optional name' read).finish = .ok a)
    (here : Json.lookup name ns = a.map write) :
    ((Source.members ns).optional name read).finish = .ok a := by
  have reads : ∀ x ∈ a, ∃ v, v ≠ .null ∧ read v = .ok x := by
    rintro x rfl
    obtain ⟨v, -, given, reads⟩ := Source.finish_optional_some.1 was
    exact ⟨v, given, reads⟩
  refine Source.finish_optional_of_read_write here (fun x held => ?_) (fun x held => ?_)
  · obtain ⟨v, -, reads⟩ := reads x held
    exact (settles x held).again reads
  · obtain ⟨v, given, reads⟩ := reads x held
    exact (settles x held).given reads given

/-- A field with a default is always written; so the default has to be read back too. -/
theorem withDefault {d a : α} (settles : Settles read write a) (default : read (write d) = .ok d)
    (was : ((Source.members ms).withDefault name d read).finish = .ok a)
    (here : Json.lookup name ns = some (write a)) :
    ((Source.members ns).withDefault name d read).finish = .ok a := by
  refine Source.finish_withDefault.2 (.inr ⟨write a, here, ?_⟩)
  obtain ⟨-, rfl⟩ | ⟨v, -, reads⟩ := Source.finish_withDefault.1 was
  · exact default
  · exact settles.again reads

theorem forall₂ {vs : List Json} {xs : List α} (settles : ∀ x ∈ xs, Settles read write x)
    (each : List.Forall₂ (fun v x => read v = .ok x) vs xs) :
    List.Forall₂ (fun v x => read v = .ok x) (xs.map write) xs := by
  induction each with
  | nil => exact .nil
  | cons reads _ ih =>
      exact .cons ((settles _ List.mem_cons_self).again reads)
        (ih fun x later => settles x (List.mem_cons_of_mem _ later))

theorem list {xs : List α} (settles : ∀ x ∈ xs, Settles read write x) :
    Settles (Json.readList read) (fun xs => .arr (xs.map write)) xs where
  again reads := by
    obtain ⟨vs, -, each⟩ := Json.readList_eq_ok_iff.1 reads
    exact Json.readList_eq_ok_iff.2 ⟨_, rfl, forall₂ settles each⟩
  given _ _ := nofun

/-- A list field is left out when it is empty, and it may be absent. -/
theorem listed {xs : List α} (settles : ∀ x ∈ xs, Settles read write x)
    (was : ((Source.members ms).withDefault name [] (Json.readList read)).finish = .ok xs)
    (here : Json.lookup name ns = Json.ofListUnlessEmpty write xs) :
    ((Source.members ns).withDefault name [] (Json.readList read)).finish = .ok xs := by
  cases xs with
  | nil => exact Source.finish_listed.2 (.inl ⟨here, rfl⟩)
  | cons x rest =>
      obtain ⟨-, empty⟩ | ⟨vs, -, each⟩ := Source.finish_listed.1 was
      · cases empty
      · exact Source.finish_listed.2 (.inr ⟨_, here, forall₂ settles each⟩)

end Settles

/-! ## Simple values -/

namespace Json

theorem settles_string (s : String) : Settles readString .str s :=
  .of_read_write (fun _ => by rfl) (fun _ => by nofun) s

theorem settles_bool (b : Bool) : Settles readBool .bool b :=
  .of_read_write (fun _ => by rfl) (fun _ => by nofun) b

theorem settles_id (n : UInt32) : Settles readId ofId n :=
  .of_read_write readId_ofId (fun _ => by nofun) n

theorem settles_any (v : Json) : Settles readAny id v :=
  .of_eq fun reads => (Except.ok.inj reads).symm

/-- A list of any values is written as the list that it was read from. -/
theorem settles_list (xs : List Json) : Settles (readList readAny) .arr xs := by
  refine .of_eq fun reads => ?_
  obtain ⟨vs, rfl, each⟩ := readList_eq_ok_iff.1 reads
  have same : List.Forall₂ Eq vs xs := each.imp fun _ _ reads => Except.ok.inj reads
  rw [List.forall₂_eq_eq_eq] at same
  rw [same]

/-- A table is read back if its values are. -/
theorem readMembers_entries {read : Reader α} {write : α → Json} (t : Table String α)
    (back : ∀ a, read (write a) = .ok a) :
    readMembers read (t.entries.map fun e => (e.1, write e.2)) = .ok t := by
  have each : ∀ es : List (String × α),
      (es.map fun e => (e.1, write e.2)).mapM
        (fun m => (read m.2).map fun a => (m.1, a)) = .ok es := by
    intro es
    induction es with
    | nil => rfl
    | cons e rest ih => rw [List.map_cons, List.mapM_cons, back, ih]; rfl
  rw [readMembers, each]
  exact congrArg Except.ok (Table.ofList_entries t)

theorem settles_table {read : Reader α} {write : α → Json} (back : ∀ a, read (write a) = .ok a)
    (t : Table String α) : Settles (readTable read) (ofTable write) t :=
  .of_read_write (fun t => readMembers_entries t back) (fun _ => by nofun) t

end Json

theorem Shape.settles (s : Shape) : Settles read write s :=
  .of_read_write (fun s => by cases s <;> rfl) (fun _ => by nofun) s

theorem Measure.read_write (m : Measure) : read m.write = .ok m := by
  cases m <;> rfl

theorem Aggregate.read_write (op : Aggregate) : read op.write = .ok op := by
  cases op <;> rfl

theorem Encoding.settles (e : Encoding) : Settles read write e := by
  refine .of_read_write (fun e => ?_) (fun _ => by nofun) e
  refine Json.readMembers_entries e fun set => ?_
  show Except.ok (Table.ofList (set.entries.map fun m => m)) = _
  rw [List.map_id']
  exact congrArg Except.ok (Table.ofList_entries set)

end ChartBinding
