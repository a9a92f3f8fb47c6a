import ChartBinding.Proofs.ScaleForms
import ChartBinding.Proofs.Settling

/-!
# Specifications are read back from what they are written as

Every record of a chart, of a sketch and of the scene settles. For a scale's domain and range and
for the address of a data source, which are read in the first form that fits, this says that a
written form is not caught by an earlier form; for a mark it is an induction over the marks that it
holds (`Mark.induction`).
-/

namespace ChartBinding

open RecordShape (Writes)

/-! ## Forms -/

theorem TextOrSignal.settles (t : TextOrSignal) : Settles read write t := by
  refine .of_read_write (fun t => ?_) (fun t => ?_) t
  · cases t <;> rfl
  · cases t <;> nofun

theorem FieldReference.settles (r : FieldReference) : Settles read write r := by
  refine .of_obj fun reads => ?_
  obtain ⟨ms, rfl, data, field, kept⟩ := read_eq_ok_iff.1 reads
  obtain ⟨ns, written, writes⟩ :=
    Writes.of_undeclared (rfl : r.write = _) kept (.refl _) (by decide)
  refine ⟨ns, written, read_eq_ok_iff.2 ⟨ns, rfl, ?_, ?_, writes.undeclared_eq.symm⟩⟩
  · exact (Json.settles_string _).required data (writes.lookup_field (by simp))
  · exact (Json.settles_any _).required field (writes.lookup_field (by simp))

theorem FieldReferences.settles (r : FieldReferences) : Settles read write r := by
  refine .of_obj fun reads => ?_
  obtain ⟨ms, rfl, fields, kept⟩ := read_eq_ok_iff.1 reads
  obtain ⟨ns, written, writes⟩ :=
    Writes.of_undeclared (rfl : r.write = _) kept (.refl _) (by decide)
  refine ⟨ns, written, read_eq_ok_iff.2 ⟨ns, rfl, ?_, writes.undeclared_eq.symm⟩⟩
  exact (Settles.list fun x _ => x.settles).required fields (writes.lookup_field (by simp))

/-- **Several fields are not written as one field.** The members by which one field is told are kept
among the others, so the written form has them only if the value had them. -/
theorem FieldReferences.read_write_of_ne {v : Json} {r : FieldReferences} (reads : read v = .ok r)
    (several : ∀ q, FieldReference.read v ≠ .ok q) : ∀ q, FieldReference.read r.write ≠ .ok q := by
  intro q single
  obtain ⟨ms, rfl, -, kept⟩ := read_eq_ok_iff.1 reads
  obtain ⟨ns, written, writes⟩ :=
    Writes.of_undeclared (rfl : r.write = _) kept (.refl _) (by decide)
  rw [written, FieldReference.read_eq_ok_iff] at single
  obtain ⟨_, ⟨⟩, data, field, -⟩ := single
  rw [Source.finish_required, writes.lookup_undeclared kept (by decide),
    ← Source.finish_required] at data field
  exact several ⟨q.data, q.field, FieldReference.recordShape.undeclared ms⟩
    (FieldReference.read_eq_ok_iff.2 ⟨ms, rfl, data, field, rfl⟩)

namespace Scale

theorem Range.ofJson_write (v : Json) : ofJson (ofJson v).write = ofJson v := by
  obtain ⟨s, -, form⟩ | ⟨-, same⟩ := ofJson_cases v
  · rw [form]
    rfl
  · rw [same]

theorem Range.write_ofJson_ne_null {v : Json} (given : v ≠ .null) : (ofJson v).write ≠ .null := by
  obtain ⟨s, -, form⟩ | ⟨-, same⟩ := ofJson_cases v
  · rw [form]
    nofun
  · rwa [same]

/-- A range is read again in the form that it was read in. -/
theorem Range.settles (r : Range) : Settles read write r :=
  .of_forms ofJson_write write_ofJson_ne_null r

theorem Domain.ofJson_write (v : Json) : ofJson (ofJson v).write = ofJson v := by
  obtain ⟨r, field, form⟩ | ⟨single, ⟨r, fields, form⟩ | ⟨-, ⟨s, -, form⟩ | ⟨-, same⟩⟩⟩ :=
    ofJson_cases v
  · rw [form]
    exact ofJson_of_field (r.settles.again field)
  · rw [form]
    exact ofJson_of_fields (FieldReferences.read_write_of_ne fields single)
      (r.settles.again fields)
  · rw [form]
    rfl
  · rw [same]

theorem Domain.write_ofJson_ne_null {v : Json} (given : v ≠ .null) : (ofJson v).write ≠ .null := by
  obtain ⟨r, -, form⟩ | ⟨-, ⟨r, -, form⟩ | ⟨-, ⟨s, -, form⟩ | ⟨-, same⟩⟩⟩ := ofJson_cases v
  · rw [form]
    nofun
  · rw [form]
    nofun
  · rw [form]
    nofun
  · rwa [same]

/-- A domain is read again in the form that it was read in. -/
theorem Domain.settles (d : Domain) : Settles read write d :=
  .of_forms ofJson_write write_ofJson_ne_null d

end Scale

/-! ## What charts consist of -/

theorem DataSource.settles (d : DataSource) : Settles read write d := by
  refine .of_obj fun reads => ?_
  obtain ⟨ms, rfl, name, source, url, format, values, transform, kept⟩ := read_eq_ok_iff.1 reads
  obtain ⟨ns, written, writes⟩ :=
    Writes.of_undeclared (rfl : d.write = _) kept (.refl _) (by decide)
  refine ⟨ns, written, read_eq_ok_iff.2
    ⟨ns, rfl, ?_, ?_, ?_, ?_, ?_, ?_, writes.undeclared_eq.symm⟩⟩
  · exact (Json.settles_string _).required name (writes.lookup_field (by simp))
  · exact Settles.optional (fun s _ => Json.settles_string s) source
      (writes.lookup_field (by simp))
  · exact Settles.optional (fun t _ => t.settles) url (writes.lookup_field (by simp))
  · exact Settles.optional (fun v _ => Json.settles_any v) format (writes.lookup_field (by simp))
  · exact Settles.optional (fun v _ => Json.settles_any v) values (writes.lookup_field (by simp))
  · exact Settles.listed (fun v _ => Json.settles_any v) transform (writes.lookup_field (by simp))

theorem Scale.settles (s : Scale) : Settles read write s := by
  refine .of_obj fun reads => ?_
  obtain ⟨ms, rfl, name, kind, domain, range, kept⟩ := read_eq_ok_iff.1 reads
  obtain ⟨ns, written, writes⟩ :=
    Writes.of_undeclared (rfl : s.write = _) kept (.refl _) (by decide)
  refine ⟨ns, written, read_eq_ok_iff.2 ⟨ns, rfl, ?_, ?_, ?_, ?_, writes.undeclared_eq.symm⟩⟩
  · exact (Json.settles_string _).required name (writes.lookup_field (by simp))
  · exact Settles.optional (fun s _ => Json.settles_string s) kind (writes.lookup_field (by simp))
  · exact Settles.optional (fun d _ => d.settles) domain (writes.lookup_field (by simp))
  · exact Settles.optional (fun r _ => r.settles) range (writes.lookup_field (by simp))

theorem Axis.settles (a : Axis) : Settles read write a := by
  refine .of_obj fun reads => ?_
  obtain ⟨ms, rfl, scale, orient, kept⟩ := read_eq_ok_iff.1 reads
  obtain ⟨ns, written, writes⟩ :=
    Writes.of_undeclared (rfl : a.write = _) kept (.refl _) (by decide)
  refine ⟨ns, written, read_eq_ok_iff.2 ⟨ns, rfl, ?_, ?_, writes.undeclared_eq.symm⟩⟩
  · exact (Json.settles_string _).required scale (writes.lookup_field (by simp))
  · exact Settles.optional (fun s _ => Json.settles_string s) orient (writes.lookup_field (by simp))

theorem Legend.settles (l : Legend) : Settles read write l := by
  refine .of_obj fun reads => ?_
  obtain ⟨ms, rfl, fill, stroke, size, shape, opacity, kept⟩ := read_eq_ok_iff.1 reads
  obtain ⟨ns, written, writes⟩ :=
    Writes.of_undeclared (rfl : l.write = _) kept (.refl _) (by decide)
  have scale {name : String} {s : Option String}
      (was : ((Source.members ms).optional name Json.readString).finish = .ok s)
      (here : Json.lookup name ns = s.map .str) :
      ((Source.members ns).optional name Json.readString).finish = .ok s :=
    Settles.optional (fun s _ => Json.settles_string s) was here
  refine ⟨ns, written, read_eq_ok_iff.2 ⟨ns, rfl, ?_, ?_, ?_, ?_, ?_, writes.undeclared_eq.symm⟩⟩
  · exact scale fill (writes.lookup_field (by simp))
  · exact scale stroke (writes.lookup_field (by simp))
  · exact scale size (writes.lookup_field (by simp))
  · exact scale shape (writes.lookup_field (by simp))
  · exact scale opacity (writes.lookup_field (by simp))

theorem MarkSource.settles (s : MarkSource) : Settles read write s := by
  refine .of_obj fun reads => ?_
  obtain ⟨ms, rfl, data, mark, kept⟩ := read_eq_ok_iff.1 reads
  obtain ⟨ns, written, writes⟩ :=
    Writes.of_undeclared (rfl : s.write = _) kept (.refl _) (by decide)
  refine ⟨ns, written, read_eq_ok_iff.2 ⟨ns, rfl, ?_, ?_, writes.undeclared_eq.symm⟩⟩
  · exact Settles.optional (fun s _ => Json.settles_string s) data (writes.lookup_field (by simp))
  · exact Settles.optional (fun s _ => Json.settles_string s) mark (writes.lookup_field (by simp))

/-! ## Marks -/

/-- A mark settles if the marks in it do, so every mark does. -/
theorem Mark.settles (m : Mark) : Settles read write m := by
  induction m using Mark.induction with
  | step m nested =>
      refine .of_obj fun reads => ?_
      obtain ⟨ms, rfl, kind, name, source, encoding, data, marks, scales, axes, legends, kept⟩ :=
        read_eq_ok_iff.1 reads
      obtain ⟨ns, written, writes⟩ := exists_writes kept
      refine ⟨ns, written, read_eq_ok_iff.2
        ⟨ns, rfl, ?_, ?_, ?_, ?_, ?_, ?_, ?_, ?_, ?_, writes.undeclared_eq.symm⟩⟩
      · exact (Json.settles_string _).required kind (writes.lookup_field (by simp [writtenFields]))
      · exact Settles.optional (fun s _ => Json.settles_string s) name
          (writes.lookup_field (by simp [writtenFields]))
      · exact Settles.optional (fun s _ => s.settles) source
          (writes.lookup_field (by simp [writtenFields]))
      · have encode : Json.lookup "encode" ns = m.encoding.map Encoding.write :=
          writes.lookup_field (by simp [writtenFields])
        -- Under whichever name it was read, it stands under the first now, and only there.
        refine finish_readEncoding.2 (.inl ⟨lookup_properties writes, ?_⟩)
        obtain ⟨-, was⟩ | ⟨-, was⟩ := finish_readEncoding.1 encoding
        · exact Settles.optional (fun e _ => e.settles) was encode
        · exact Settles.optional (fun e _ => e.settles) was encode
      · exact Settles.listed (fun d _ => d.settles) data
          (writes.lookup_field (by simp [writtenFields]))
      · exact Settles.listed nested marks (writes.lookup_field (by simp [writtenFields]))
      · exact Settles.listed (fun s _ => s.settles) scales
          (writes.lookup_field (by simp [writtenFields]))
      · exact Settles.listed (fun a _ => a.settles) axes
          (writes.lookup_field (by simp [writtenFields]))
      · exact Settles.listed (fun l _ => l.settles) legends
          (writes.lookup_field (by simp [writtenFields]))

theorem Chart.settles (c : Chart) : Settles read write c := by
  refine .of_obj fun reads => ?_
  obtain ⟨ms, rfl, schema, data, marks, scales, axes, legends, kept⟩ := read_eq_ok_iff.1 reads
  obtain ⟨ns, written, writes⟩ :=
    Writes.of_undeclared (rfl : c.write = _) kept (.refl _) (by decide)
  refine ⟨ns, written, read_eq_ok_iff.2
    ⟨ns, rfl, ?_, ?_, ?_, ?_, ?_, ?_, writes.undeclared_eq.symm⟩⟩
  · exact (Json.settles_string _).withDefault rfl schema (writes.lookup_field (by simp))
  · exact Settles.listed (fun d _ => d.settles) data (writes.lookup_field (by simp))
  · exact Settles.listed (fun m _ => m.settles) marks (writes.lookup_field (by simp))
  · exact Settles.listed (fun s _ => s.settles) scales (writes.lookup_field (by simp))
  · exact Settles.listed (fun a _ => a.settles) axes (writes.lookup_field (by simp))
  · exact Settles.listed (fun l _ => l.settles) legends (writes.lookup_field (by simp))

/-! ## Sketches and marks of the scene -/

theorem ChannelDef.read_write (d : ChannelDef) : read d.write = .ok d := by
  obtain ⟨ns, written, writes⟩ :=
    Writes.of_plainRecord (rfl : d.write = _) (.refl recordShape.fields) (by decide)
  rw [written]
  refine read_obj_eq_ok_iff.2 ⟨?_, ?_, ?_, ?_⟩
  · exact Source.finish_required.2 ⟨_, writes.lookup_field (by simp), d.measure.read_write⟩
  · exact Source.finish_required.2 ⟨.str d.field, writes.lookup_field (by simp), rfl⟩
  · exact Source.finish_optional_of_read_write (writes.lookup_field (by simp))
      (fun op _ => op.read_write) (fun _ _ => nofun)
  · have bin : Json.lookup "bin" ns = d.bin.map .bool := writes.lookup_field (by simp)
    exact Source.finish_optional_of_read_write bin (fun _ _ => rfl) (fun _ _ => nofun)

theorem Sketch.Cell.read_write (c : Cell) : read c.write = .ok c := rfl

theorem Sketch.MarkStyle.settles (s : MarkStyle) : Settles read write s := by
  refine .of_obj fun reads => ?_
  obtain ⟨ms, rfl, filled, kept⟩ := read_eq_ok_iff.1 reads
  obtain ⟨ns, written, writes⟩ :=
    Writes.of_undeclared (rfl : s.write = _) kept (.refl _) (by decide)
  refine ⟨ns, written, read_eq_ok_iff.2 ⟨ns, rfl, ?_, writes.undeclared_eq.symm⟩⟩
  exact Settles.optional (fun b _ => Json.settles_bool b) filled (writes.lookup_field (by simp))

theorem Sketch.Data.settles (d : Data) : Settles read write d := by
  refine .of_obj fun reads => ?_
  obtain ⟨ms, rfl, values, kept⟩ := read_eq_ok_iff.1 reads
  obtain ⟨ns, written, writes⟩ :=
    Writes.of_undeclared (rfl : d.write = _) kept (.refl _) (by decide)
  refine ⟨ns, written, read_eq_ok_iff.2 ⟨ns, rfl, ?_, writes.undeclared_eq.symm⟩⟩
  exact Settles.optional (fun xs _ => Json.settles_list xs) values (writes.lookup_field (by simp))

theorem Sketch.Config.settles (c : Config) : Settles read write c := by
  refine .of_obj fun reads => ?_
  obtain ⟨ms, rfl, cell, mark, kept⟩ := read_eq_ok_iff.1 reads
  obtain ⟨ns, written, writes⟩ :=
    Writes.of_undeclared (rfl : c.write = _) kept (.refl _) (by decide)
  refine ⟨ns, written, read_eq_ok_iff.2 ⟨ns, rfl, ?_, ?_, writes.undeclared_eq.symm⟩⟩
  · exact Source.finish_optional_of_read_write (writes.lookup_field (by simp))
      (fun c _ => c.read_write) (fun _ _ => nofun)
  · exact Settles.optional (fun s _ => s.settles) mark (writes.lookup_field (by simp))

theorem Sketch.settles (s : Sketch) : Settles read write s := by
  refine .of_obj fun reads => ?_
  obtain ⟨ms, rfl, shape, data, encoding, config, kept⟩ := read_eq_ok_iff.1 reads
  obtain ⟨ns, written, writes⟩ :=
    Writes.of_undeclared (rfl : s.write = _) kept (.refl _) (by decide)
  refine ⟨ns, written, read_eq_ok_iff.2 ⟨ns, rfl, ?_, ?_, ?_, ?_, writes.undeclared_eq.symm⟩⟩
  · exact s.shape.settles.required shape (writes.lookup_field (by simp))
  · exact s.data.settles.withDefault rfl data (writes.lookup_field (by simp))
  · exact (Json.settles_table ChannelDef.read_write _).withDefault rfl encoding
      (writes.lookup_field (by simp))
  · exact s.config.settles.withDefault rfl config (writes.lookup_field (by simp))

theorem SceneMark.settles (m : SceneMark) : Settles read write m := by
  refine .of_obj fun reads => ?_
  obtain ⟨ms, rfl, id, type, link, kept⟩ := read_eq_ok_iff.1 reads
  obtain ⟨ns, written, writes⟩ :=
    Writes.of_undeclared (rfl : m.write = _) kept (.refl _) (by decide)
  refine ⟨ns, written, read_eq_ok_iff.2 ⟨ns, rfl, ?_, ?_, ?_, writes.undeclared_eq.symm⟩⟩
  · exact (Json.settles_id _).required id (writes.lookup_field (by simp))
  · exact (Json.settles_string _).required type (writes.lookup_field (by simp))
  · exact Source.finish_optional_of_read_write (writes.lookup_field (by simp))
      (fun l _ => l.read_write) (fun _ _ => nofun)

/-! ## One pass -/

/-- One pass of reading and writing puts a value in its final form. -/
structure Normalizes {α : Type} (read : Reader α) (write : α → Json) : Prop where
  /-- What was read is read again from its written form, as the same. -/
  again : ∀ v a, read v = .ok a → read (write a) = .ok a
  /-- A second pass changes nothing. -/
  twice : ∀ v w, (read v).map write = .ok w → (read w).map write = .ok w

theorem Normalizes.of_settles {α : Type} {read : Reader α} {write : α → Json}
    (settles : ∀ a, Settles read write a) : Normalizes read write where
  again _ a reads := (settles a).again reads
  twice v w passes := by
    obtain ⟨a, reads, rfl⟩ := Reader.map_eq_ok_iff.1 passes
    exact Reader.map_eq_ok_iff.2 ⟨a, (settles a).again reads, rfl⟩

/-- **One pass normalizes every specification.** Whatever value reads as a chart, a sketch or a mark
of the scene, its written form reads as the same, and so does that of each part of a chart: of every
mark, data source, scale, axis and legend, and of a domain, a range or an address, which are thus
read again in the form that they were read in. -/
theorem one_pass_normalizes :
    Normalizes Chart.read Chart.write ∧ Normalizes Sketch.read Sketch.write ∧
    Normalizes SceneMark.read SceneMark.write ∧ Normalizes Mark.read Mark.write ∧
    Normalizes DataSource.read DataSource.write ∧ Normalizes Scale.read Scale.write ∧
    Normalizes Axis.read Axis.write ∧ Normalizes Legend.read Legend.write ∧
    Normalizes MarkSource.read MarkSource.write ∧ Normalizes Encoding.read Encoding.write ∧
    Normalizes Scale.Domain.read Scale.Domain.write ∧
    Normalizes Scale.Range.read Scale.Range.write ∧
    Normalizes TextOrSignal.read TextOrSignal.write := by
  refine ⟨?_, ?_, ?_, ?_, ?_, ?_, ?_, ?_, ?_, ?_, ?_, ?_, ?_⟩
  · exact .of_settles Chart.settles
  · exact .of_settles Sketch.settles
  · exact .of_settles SceneMark.settles
  · exact .of_settles Mark.settles
  · exact .of_settles DataSource.settles
  · exact .of_settles Scale.settles
  · exact .of_settles Axis.settles
  · exact .of_settles Legend.settles
  · exact .of_settles MarkSource.settles
  · exact .of_settles Encoding.settles
  · exact .of_settles Scale.Domain.settles
  · exact .of_settles Scale.Range.settles
  · exact .of_settles TextOrSignal.settles

/-- A chart as it may come in: with null fields and empty lists, the older name of an encoding, and
signals given by position, among members that are not declared. -/
def looseChart : Json :=
  .obj [("width", .int 200), ("axes", .arr []),
    ("data", .arr [.obj [("name", .str "table"), ("url", .arr [.str "address"]), ("format", .null),
      ("transform", .arr []), ("on", .arr [.null])]]),
    ("marks", .arr [.obj [("type", .str "group"), ("from", .null),
      ("properties", .obj [("update", .obj [("x", .int 0)])]),
      ("marks", .arr [.obj [("clip", .bool true), ("type", .str "rect"), ("name", .null)]])]]),
    ("scales", .arr [.obj [("range", .arr [.str "width"]), ("name", .str "x"),
      ("domain", .obj [("fields", .arr [.obj [("data", .str "table"), ("field", .null)]]),
        ("sort", .bool true)])]])]

/-- The final form of the chart. -/
theorem one_pass_normalizes_looseChart :
    ∃ w, (Chart.read looseChart).map Chart.write = .ok w ∧
      w = .obj [("$schema", .str Chart.defaultSchema),
        ("data", .arr [.obj [("name", .str "table"), ("url", .obj [("signal", .str "address")]),
          ("on", .arr [.null])]]),
        ("marks", .arr [.obj [("type", .str "group"),
          ("encode", .obj [("update", .obj [("x", .int 0)])]),
          ("marks", .arr [.obj [("type", .str "rect"), ("clip", .bool true)]])]]),
        ("scales", .arr [.obj [("name", .str "x"),
          ("domain", .obj [("fields", .arr [.obj [("data", .str "table"), ("field", .null)]]),
            ("sort", .bool true)]),
          ("range", .obj [("signal", .str "width")])]]),
        ("width", .int 200)] ∧
      (Chart.read w).map Chart.write = .ok w :=
  ⟨_, rfl, rfl, one_pass_normalizes.1.twice looseChart _ rfl⟩

end ChartBinding
