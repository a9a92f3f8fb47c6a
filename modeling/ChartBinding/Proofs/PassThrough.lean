import ChartBinding.Proofs.Rereading

/-!
# What passes through a chart

A chart that is read and written back keeps what it does not understand. The law is stated against
the document and not against the records: `Part.declared` says which members of which objects are
declared and in which form, and `Kept` says, level by level, what is written for a given value. Only
four things can happen to a member: it is kept, it is dropped because it said nothing
(`Rule.drops`), it was not there, or a default is put in its place. A member that is not declared is
always kept, with the identical value.

Two forms change what they hold. A signal is written in its own form, so nothing is said of its
contents; the encoding of a mark is written under the first of its two names (`Part.given`).
-/

namespace ChartBinding

/-! ## What the parts of a chart declare -/

/-- The kinds of objects that a chart consists of. -/
inductive Part where
  | chart
  | data
  | mark
  | source
  | encoding
  | encodingSet
  | scale
  | fieldReference
  | fieldReferences
  | axis
  | legend

/-- What a member may be. -/
inductive Form where
  /-- Anything, and it stays as it is: a text or a value that the chart does not look into. -/
  | free
  /-- A signal, or else anything, which stays as it is. -/
  | signalOr
  /-- The domain of a scale. -/
  | domain
  | object (p : Part)
  | list (f : Form)

/-- What becomes of a member: its form, which of its values are dropped, and what is put in its
place if it is absent. -/
structure Rule where
  form : Form
  drops : Json → Bool
  default? : Option Json

namespace Rule

/-- A member that is kept whatever it is. -/
def plain (f : Form) : Rule := ⟨f, fun _ => false, none⟩

/-- An optional member: null says nothing. -/
def optional (f : Form) : Rule := ⟨f, Json.isNull, none⟩

/-- A list that may be absent: an empty one says nothing. -/
def listed (f : Form) : Rule :=
  ⟨.list f, fun v => match v with | .arr [] => true | _ => false, none⟩

def withDefault (default : Json) (f : Form) : Rule := ⟨f, fun _ => false, some default⟩

end Rule

namespace Part

/-- The declared members of a part. -/
def declared : Part → List (String × Rule)
  | chart =>
    [("$schema", .withDefault (.str Chart.defaultSchema) .free), ("data", .listed (.object data)),
     ("marks", .listed (.object mark)), ("scales", .listed (.object scale)),
     ("axes", .listed (.object axis)), ("legends", .listed (.object legend))]
  | data =>
    [("name", .plain .free), ("source", .optional .free), ("url", .optional .signalOr),
     ("format", .optional .free), ("values", .optional .free), ("transform", .listed .free)]
  | mark =>
    [("type", .plain .free), ("name", .optional .free), ("from", .optional (.object source)),
     ("encode", .optional (.object encoding)), ("properties", .optional (.object encoding)),
     ("data", .listed (.object data)), ("marks", .listed (.object mark)),
     ("scales", .listed (.object scale)), ("axes", .listed (.object axis)),
     ("legends", .listed (.object legend))]
  | source => [("data", .optional .free), ("mark", .optional .free)]
  | encoding => []
  | encodingSet => []
  | scale =>
    [("name", .plain .free), ("type", .optional .free), ("domain", .optional .domain),
     ("range", .optional .signalOr)]
  | fieldReference => [("data", .plain .free), ("field", .plain .free)]
  | fieldReferences => [("fields", .plain (.list (.object fieldReference)))]
  | axis => [("scale", .plain .free), ("orient", .optional .free)]
  | legend =>
    [("fill", .optional .free), ("stroke", .optional .free), ("size", .optional .free),
     ("shape", .optional .free), ("opacity", .optional .free)]

/-- What becomes of the members that a part does not declare. Those of an encoding are its sets. -/
def rest : Part → Rule
  | encoding => .plain (.object encodingSet)
  | _ => .plain .free

def rule (p : Part) (name : String) : Rule := (p.declared.lookup name).getD p.rest

/-- What was given for a member. The encoding of a mark may be given under either of two names and
counts as given under the first. -/
def given (p : Part) (name : String) (ms : List (String × Json)) : Option Json :=
  match p with
  | mark =>
    if name = "encode" then (Json.lookup "encode" ms).or (Json.lookup "properties" ms)
    else if name = "properties" then none
    else Json.lookup name ms
  | _ => Json.lookup name ms

end Part

/-! ## What is kept -/

mutual

/-- `Kept f v w`: what was given as `v`, in the form `f`, is written as `w`. -/
inductive Kept : Form → Json → Json → Prop where
  | free (v : Json) : Kept .free v v
  | signal {v : Json} {s : Signal} (reads : Signal.read v = .ok s) : Kept .signalOr v s.write
  | noSignal {v : Json} (other : ∀ s, Signal.read v ≠ .ok s) : Kept .signalOr v v
  | field {v w : Json} {r : FieldReference} (reads : FieldReference.read v = .ok r)
      (kept : Kept (.object .fieldReference) v w) : Kept .domain v w
  | fields {v w : Json} {r : FieldReferences} (single : ∀ r, FieldReference.read v ≠ .ok r)
      (reads : FieldReferences.read v = .ok r) (kept : Kept (.object .fieldReferences) v w) :
      Kept .domain v w
  | noField {v w : Json} (single : ∀ r, FieldReference.read v ≠ .ok r)
      (several : ∀ r, FieldReferences.read v ≠ .ok r) (kept : Kept .signalOr v w) :
      Kept .domain v w
  | nil (f : Form) : Kept (.list f) (.arr []) (.arr [])
  | cons {f : Form} {v w : Json} {vs ws : List Json} (first : Kept f v w)
      (rest : Kept (.list f) (.arr vs) (.arr ws)) : Kept (.list f) (.arr (v :: vs)) (.arr (w :: ws))
  /-- An object: no name is written twice, and every member is kept as its rule says. -/
  | object {p : Part} {ms ns : List (String × Json)} (distinct : (ns.map (·.1)).Nodup)
      (members : ∀ name, MemberKept (p.rule name) (p.given name ms) (Json.lookup name ns)) :
      Kept (.object p) (.obj ms) (.obj ns)

/-- What was given for a member and what is written for it. -/
inductive MemberKept : Rule → Option Json → Option Json → Prop where
  | kept {r : Rule} {v w : Json} (said : r.drops v = false) (kept : Kept r.form v w) :
      MemberKept r (some v) (some w)
  | dropped {r : Rule} {v : Json} (unsaid : r.drops v = true) : MemberKept r (some v) none
  | absent {r : Rule} (noDefault : r.default? = none) : MemberKept r none none
  | added {r : Rule} {w : Json} (default : r.default? = some w) : MemberKept r none (some w)

end

theorem MemberKept.eq_of_free {given written : Option Json}
    (kept : MemberKept (.plain .free) given written) : written = given := by
  cases kept with
  | kept said kept => cases kept; rfl
  | dropped unsaid => cases unsaid
  | absent noDefault => rfl
  | added default => cases default

theorem Part.given_of_not_declared {p : Part} {name : String}
    (other : p.declared.lookup name = none) (ms : List (String × Json)) :
    p.given name ms = Json.lookup name ms := by
  cases p with
  | mark =>
      have first : name ≠ "encode" := by rintro rfl; cases other
      have second : name ≠ "properties" := by rintro rfl; cases other
      simp [Part.given, first, second]
  | _ => rfl

/-- **A member that is not declared is written with the identical value**, or it is absent from
both. -/
theorem Kept.get?_of_not_declared {p : Part} {v w : Json} {name : String}
    (kept : Kept (.object p) v w) (rest : p.rest = .plain .free)
    (other : p.declared.lookup name = none) : w.get? name = v.get? name := by
  cases kept with
  | object distinct members =>
      have member := members name
      rw [Part.rule, other, Option.getD_none, rest, Part.given_of_not_declared other] at member
      exact member.eq_of_free

/-- Whatever `a` is read from is kept when `a` is written. -/
def Keeps {α : Type} (f : Form) (read : Reader α) (write : α → Json) (a : α) : Prop :=
  ∀ v, read v = .ok a → Kept f v (write a)

section

variable {α : Type} {read : Reader α} {write : α → Json} {f : Form}

theorem Kept.list {vs : List Json} {xs : List α} (keeps : ∀ x ∈ xs, Keeps f read write x)
    (each : List.Forall₂ (fun v x => read v = .ok x) vs xs) :
    Kept (.list f) (.arr vs) (.arr (xs.map write)) := by
  induction each with
  | nil => exact .nil f
  | cons reads _ ih =>
      exact .cons (keeps _ List.mem_cons_self _ reads)
        (ih fun x later => keeps x (List.mem_cons_of_mem _ later))

/-! ### Members -/

namespace MemberKept

variable {ms ns : List (String × Json)} {name : String}

theorem free (v : Option Json) : MemberKept (.plain .free) v v := by
  cases v with
  | none => exact .absent rfl
  | some v => exact .kept rfl (.free v)

theorem required {a : α} (keeps : Keeps f read write a)
    (was : ((Source.members ms).required name read).finish = .ok a)
    (here : Json.lookup name ns = some (write a)) :
    MemberKept (.plain f) (Json.lookup name ms) (Json.lookup name ns) := by
  obtain ⟨v, found, reads⟩ := Source.finish_required.1 was
  rw [found, here]
  exact .kept rfl (keeps v reads)

theorem optional {a : Option α} {name' : String} (keeps : ∀ x ∈ a, Keeps f read write x)
    (was : ((Source.members ms).optional name' read).finish = .ok a)
    (here : Json.lookup name ns = a.map write) :
    MemberKept (.optional f) (Json.lookup name' ms) (Json.lookup name ns) := by
  rw [here]
  cases a with
  | none =>
      obtain absent | null := Source.finish_optional_none.1 was
      · rw [absent]
        exact .absent rfl
      · rw [null]
        exact .dropped rfl
  | some a =>
      obtain ⟨v, found, given, reads⟩ := Source.finish_optional_some.1 was
      have said : v.isNull = false := by cases v <;> first | rfl | exact absurd rfl given
      rw [found]
      exact .kept said (keeps a rfl v reads)

theorem listed {xs : List α} (keeps : ∀ x ∈ xs, Keeps f read write x)
    (was : ((Source.members ms).withDefault name [] (Json.readList read)).finish = .ok xs)
    (here : Json.lookup name ns = Json.ofListUnlessEmpty write xs) :
    MemberKept (.listed f) (Json.lookup name ms) (Json.lookup name ns) := by
  rw [here]
  obtain ⟨absent, rfl⟩ | ⟨vs, found, each⟩ := Source.finish_listed.1 was
  · rw [absent]
    exact .absent rfl
  · rw [found]
    cases each with
    | nil => exact .dropped rfl
    | cons first later => exact .kept rfl (Kept.list keeps (.cons first later))

theorem withDefault {d a : α} (keeps : Keeps f read write a)
    (was : ((Source.members ms).withDefault name d read).finish = .ok a)
    (here : Json.lookup name ns = some (write a)) :
    MemberKept (.withDefault (write d) f) (Json.lookup name ms) (Json.lookup name ns) := by
  rw [here]
  obtain ⟨absent, rfl⟩ | ⟨v, found, reads⟩ := Source.finish_withDefault.1 was
  · rw [absent]
    exact .added rfl
  · rw [found]
    exact .kept rfl (keeps v reads)

end MemberKept

end

/-! ### Objects -/

/-- An open record keeps what it was read from if it keeps its declared members. -/
theorem Kept.of_writes {p : Part} {shape : RecordShape} {fields : List (String × Option Json)}
    {extra : Table String Json} {ms ns : List (String × Json)}
    (names : p.declared.map (·.1) = shape.fields) (rest : p.rest = .plain .free)
    (writes : shape.Writes fields extra ns) (kept : extra = shape.undeclared ms)
    (members : p.declared.Forall fun d =>
      MemberKept d.2 (p.given d.1 ms) (Json.lookup d.1 ns)) :
    Kept (.object p) (.obj ms) (.obj ns) := by
  refine .object writes.nodup_names fun name => ?_
  cases found : p.declared.lookup name with
  | some r =>
      obtain ⟨before, after, split, -⟩ := List.lookup_eq_some_iff.1 found
      have declared : (name, r) ∈ p.declared := by simp [split]
      rw [Part.rule, found]
      exact List.forall_iff_forall_mem.1 members _ declared
  | none =>
      have other : name ∉ shape.fields := by
        rw [← names]
        intro declared
        obtain ⟨d, member, rfl⟩ := List.mem_map.1 declared
        exact absurd rfl (bne_iff_ne.1 (List.lookup_eq_none_iff.1 found d member))
      rw [Part.rule, found, Option.getD_none, rest, Part.given_of_not_declared found,
        writes.lookup_undeclared kept other]
      exact .free _

/-! ## Values without fields -/

theorem Json.keeps_string (s : String) : Keeps .free readString .str s := by
  intro v reads
  cases v <;> cases reads
  exact .free _

theorem Json.keeps_any (v : Json) : Keeps .free readAny id v := by
  intro v' reads
  cases reads
  exact .free v

theorem TextOrSignal.keeps (t : TextOrSignal) : Keeps .signalOr read write t := by
  intro v reads
  unfold read at reads
  split at reads
  · cases reads
    exact .noSignal nofun
  · split at reads
    · cases reads
      exact .signal ‹_›
    · cases reads

/-! ## Parts of a chart -/

open RecordShape (Writes)

theorem FieldReference.keeps (r : FieldReference) :
    Keeps (.object .fieldReference) read write r := by
  intro v reads
  obtain ⟨ms, rfl, data, field, kept⟩ := read_eq_ok_iff.1 reads
  obtain ⟨ns, written, writes⟩ :=
    Writes.of_undeclared (rfl : r.write = _) kept (.refl _) (by decide)
  rw [written]
  refine .of_writes rfl rfl writes kept ⟨?_, ?_⟩
  · exact .required (Json.keeps_string _) data (writes.lookup_field (by simp))
  · exact .required (Json.keeps_any _) field (writes.lookup_field (by simp))

theorem FieldReferences.keeps (r : FieldReferences) :
    Keeps (.object .fieldReferences) read write r := by
  intro v reads
  obtain ⟨ms, rfl, fields, kept⟩ := read_eq_ok_iff.1 reads
  obtain ⟨ns, written, writes⟩ :=
    Writes.of_undeclared (rfl : r.write = _) kept (.refl _) (by decide)
  have each : Keeps (.list (.object .fieldReference)) (Json.readList FieldReference.read)
      (fun rs => .arr (rs.map FieldReference.write)) r.fields := by
    intro v reads
    obtain ⟨vs, rfl, each⟩ := Json.readList_eq_ok_iff.1 reads
    exact .list (fun q _ => q.keeps) each
  rw [written]
  exact .of_writes rfl rfl writes kept
    (.required each fields (writes.lookup_field (by simp)))

theorem Scale.Range.keeps (r : Range) : Keeps .signalOr read write r := by
  intro v reads
  cases reads
  obtain ⟨s, signal, form⟩ | ⟨other, same⟩ := ofJson_cases v
  · rw [form]
    exact .signal signal
  · rw [same]
    exact .noSignal other

theorem Scale.Domain.keeps (d : Domain) : Keeps .domain read write d := by
  intro v reads
  cases reads
  obtain ⟨r, field, form⟩ | ⟨single, ⟨r, fields, form⟩ |
    ⟨several, ⟨s, signal, form⟩ | ⟨other, same⟩⟩⟩ := ofJson_cases v
  · rw [form]
    exact .field field (r.keeps v field)
  · rw [form]
    exact .fields single fields (r.keeps v fields)
  · rw [form]
    exact .noField single several (.signal signal)
  · rw [same]
    exact .noField single several (.noSignal other)

theorem Scale.keeps (s : Scale) : Keeps (.object .scale) read write s := by
  intro v reads
  obtain ⟨ms, rfl, name, kind, domain, range, kept⟩ := read_eq_ok_iff.1 reads
  obtain ⟨ns, written, writes⟩ :=
    Writes.of_undeclared (rfl : s.write = _) kept (.refl _) (by decide)
  rw [written]
  refine .of_writes rfl rfl writes kept ⟨?_, ?_, ?_, ?_⟩
  · exact .required (Json.keeps_string _) name (writes.lookup_field (by simp))
  · exact .optional (fun s _ => Json.keeps_string s) kind (writes.lookup_field (by simp))
  · exact .optional (fun d _ => d.keeps) domain (writes.lookup_field (by simp))
  · exact .optional (fun r _ => r.keeps) range (writes.lookup_field (by simp))

theorem DataSource.keeps (d : DataSource) : Keeps (.object .data) read write d := by
  intro v reads
  obtain ⟨ms, rfl, name, source, url, format, values, transform, kept⟩ := read_eq_ok_iff.1 reads
  obtain ⟨ns, written, writes⟩ :=
    Writes.of_undeclared (rfl : d.write = _) kept (.refl _) (by decide)
  rw [written]
  refine .of_writes rfl rfl writes kept ⟨?_, ?_, ?_, ?_, ?_, ?_⟩
  · exact .required (Json.keeps_string _) name (writes.lookup_field (by simp))
  · exact .optional (fun s _ => Json.keeps_string s) source (writes.lookup_field (by simp))
  · exact .optional (fun t _ => t.keeps) url (writes.lookup_field (by simp))
  · exact .optional (fun v _ => Json.keeps_any v) format
      (writes.lookup_field (by simp))
  · exact .optional (fun v _ => Json.keeps_any v) values
      (writes.lookup_field (by simp))
  · exact .listed (fun v _ => Json.keeps_any v) transform (writes.lookup_field (by simp))

theorem Axis.keeps (a : Axis) : Keeps (.object .axis) read write a := by
  intro v reads
  obtain ⟨ms, rfl, scale, orient, kept⟩ := read_eq_ok_iff.1 reads
  obtain ⟨ns, written, writes⟩ :=
    Writes.of_undeclared (rfl : a.write = _) kept (.refl _) (by decide)
  rw [written]
  refine .of_writes rfl rfl writes kept ⟨?_, ?_⟩
  · exact .required (Json.keeps_string _) scale (writes.lookup_field (by simp))
  · exact .optional (fun s _ => Json.keeps_string s) orient (writes.lookup_field (by simp))

theorem Legend.keeps (l : Legend) : Keeps (.object .legend) read write l := by
  intro v reads
  obtain ⟨ms, rfl, fill, stroke, size, shape, opacity, kept⟩ := read_eq_ok_iff.1 reads
  obtain ⟨ns, written, writes⟩ :=
    Writes.of_undeclared (rfl : l.write = _) kept (.refl _) (by decide)
  have scale (s : Option String) : ∀ x ∈ s, Keeps .free Json.readString .str x :=
    fun x _ => Json.keeps_string x
  rw [written]
  refine .of_writes rfl rfl writes kept ⟨?_, ?_, ?_, ?_, ?_⟩
  · exact .optional (scale _) fill (writes.lookup_field (by simp))
  · exact .optional (scale _) stroke (writes.lookup_field (by simp))
  · exact .optional (scale _) size (writes.lookup_field (by simp))
  · exact .optional (scale _) shape (writes.lookup_field (by simp))
  · exact .optional (scale _) opacity (writes.lookup_field (by simp))

theorem MarkSource.keeps (s : MarkSource) : Keeps (.object .source) read write s := by
  intro v reads
  obtain ⟨ms, rfl, data, mark, kept⟩ := read_eq_ok_iff.1 reads
  obtain ⟨ns, written, writes⟩ :=
    Writes.of_undeclared (rfl : s.write = _) kept (.refl _) (by decide)
  rw [written]
  refine .of_writes rfl rfl writes kept ⟨?_, ?_⟩
  · exact .optional (fun s _ => Json.keeps_string s) data (writes.lookup_field (by simp))
  · exact .optional (fun s _ => Json.keeps_string s) mark (writes.lookup_field (by simp))

/-! ### Encodings -/

/-- A part that declares nothing keeps each member in one form. -/
theorem Kept.of_table {α : Type} {p : Part} {f : Form} {write : α → Json} {t : Table String α}
    {ms : List (String × Json)} (bare : p.declared = []) (rest : p.rest = .plain f)
    (members : ∀ name, (Json.lookup name ms = none ∧ t.find? name = none) ∨
      ∃ v a, Json.lookup name ms = some v ∧ t.find? name = some a ∧ Kept f v (write a)) :
    Kept (.object p) (.obj ms) (Json.ofTable write t) := by
  refine .object (Json.nodup_entries (t.map write)) fun name => ?_
  have other : p.declared.lookup name = none := by rw [bare]; rfl
  rw [Part.rule, other, Option.getD_none, rest, Part.given_of_not_declared other,
    Json.lookup_map_entries]
  obtain ⟨absent, absent'⟩ | ⟨v, a, found, here, kept⟩ := members name
  · rw [absent, absent']
    exact .absent rfl
  · rw [found, here]
    exact .kept rfl kept

theorem Encoding.keeps_set (s : EncodingSet) :
    Keeps (.object .encodingSet) readSet (Json.ofTable id) s := by
  intro v reads
  cases v with
  | obj ms =>
      cases reads
      refine .of_table rfl rfl fun name => ?_
      rw [Json.find?_ofList]
      cases Json.lookup name ms with
      | none => exact .inl ⟨rfl, rfl⟩
      | some v => exact .inr ⟨v, v, rfl, rfl, .free v⟩
  | _ => cases reads

theorem Encoding.keeps (e : Encoding) : Keeps (.object .encoding) read write e := by
  intro v reads
  cases v with
  | obj ms =>
      refine .of_table rfl rfl fun name => ?_
      obtain absent | ⟨v, set, found, here, setReads⟩ := Json.find?_of_readMembers reads name
      · exact .inl absent
      · exact .inr ⟨v, set, found, here, keeps_set set v setReads⟩
  | _ => cases reads

/-! ### Marks and charts -/

/-- The encoding was read from what counts as given for it. -/
theorem Mark.given_encode {ms : List (String × Json)} {e : Option Encoding}
    (reads : (readEncoding (.members ms)).finish = .ok e) :
    ∃ name, Part.mark.given "encode" ms = Json.lookup name ms ∧
      ((Source.members ms).optional name Encoding.read).finish = .ok e := by
  show ∃ name, (Json.lookup "encode" ms).or (Json.lookup "properties" ms) = _ ∧ _
  obtain ⟨absent, was⟩ | ⟨absent, was⟩ := finish_readEncoding.1 reads
  · exact ⟨"encode", by rw [absent, Option.or_none], was⟩
  · exact ⟨"properties", by rw [absent, Option.none_or], was⟩

theorem Mark.keeps (m : Mark) : Keeps (.object .mark) read write m := by
  induction m using Mark.induction with
  | step m nested =>
      intro v reads
      obtain ⟨ms, rfl, kind, name, source, encoding, data, marks, scales, axes, legends, kept⟩ :=
        read_eq_ok_iff.1 reads
      obtain ⟨ns, written, writes⟩ := exists_writes kept
      rw [written]
      refine .of_writes rfl rfl writes kept ⟨?_, ?_, ?_, ?_, ?_, ?_, ?_, ?_, ?_, ?_⟩
      · exact .required (Json.keeps_string _) kind (writes.lookup_field (by simp [writtenFields]))
      · exact .optional (fun s _ => Json.keeps_string s) name
          (writes.lookup_field (by simp [writtenFields]))
      · exact .optional (fun s _ => s.keeps) source
          (writes.lookup_field (by simp [writtenFields]))
      · -- The encoding was read under one of its names and is written under the first.
        obtain ⟨name, here, was⟩ := given_encode encoding
        rw [here]
        exact .optional (fun e _ => e.keeps) was (writes.lookup_field (by simp [writtenFields]))
      · show MemberKept _ none (Json.lookup "properties" ns)
        rw [lookup_properties writes]
        exact .absent rfl
      · exact .listed (fun d _ => d.keeps) data (writes.lookup_field (by simp [writtenFields]))
      · exact .listed nested marks (writes.lookup_field (by simp [writtenFields]))
      · exact .listed (fun s _ => s.keeps) scales (writes.lookup_field (by simp [writtenFields]))
      · exact .listed (fun a _ => a.keeps) axes (writes.lookup_field (by simp [writtenFields]))
      · exact .listed (fun l _ => l.keeps) legends
          (writes.lookup_field (by simp [writtenFields]))

/-- **What a chart does not declare passes through it.** Whatever value reads as a chart, the chart
is written as the same value, level by level: in every object that is reached through declared
members, each member stays as it was, apart from what its rule drops or adds. -/
theorem Chart.passes_through {v : Json} {c : Chart} (reads : read v = .ok c) :
    Kept (.object .chart) v c.write := by
  obtain ⟨ms, rfl, schema, data, marks, scales, axes, legends, kept⟩ := read_eq_ok_iff.1 reads
  obtain ⟨ns, written, writes⟩ :=
    Writes.of_undeclared (rfl : c.write = _) kept (.refl _) (by decide)
  rw [written]
  refine .of_writes rfl rfl writes kept ⟨?_, ?_, ?_, ?_, ?_, ?_⟩
  · exact .withDefault (Json.keeps_string _) schema (writes.lookup_field (by simp))
  · exact .listed (fun d _ => d.keeps) data (writes.lookup_field (by simp))
  · exact .listed (fun m _ => m.keeps) marks (writes.lookup_field (by simp))
  · exact .listed (fun s _ => s.keeps) scales (writes.lookup_field (by simp))
  · exact .listed (fun a _ => a.keeps) axes (writes.lookup_field (by simp))
  · exact .listed (fun l _ => l.keeps) legends (writes.lookup_field (by simp))

/-- A chart that says how wide it is, which charts do not declare. -/
theorem Chart.passes_through_looseChart :
    ∃ c, read looseChart = .ok c ∧ Kept (.object .chart) looseChart c.write ∧
      c.write.get? "width" = some (.int 200) := by
  have kept := Chart.passes_through (rfl : read looseChart = .ok _)
  exact ⟨_, rfl, kept, kept.get?_of_not_declared rfl rfl⟩

end ChartBinding
