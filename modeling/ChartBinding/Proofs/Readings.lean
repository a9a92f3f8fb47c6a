import ChartBinding.Chart.Basic
import ChartBinding.Proofs.Record
import ChartBinding.Scene
import ChartBinding.Sketch.Basic

/-!
# What is read as a record

For each open record: a value reads as the record exactly if it is an object whose members read as
the fields, one by one, and the record has kept the other members. Marks hold marks, so what holds
of all marks is proved by induction over the marks that a mark holds (`Mark.induction`).
-/

namespace ChartBinding

variable {v : Json} {ms : List (String × Json)}

/-! ## Charts -/

theorem MarkSource.read_eq_ok_iff {m : MarkSource} :
    read v = .ok m ↔ ∃ ms, v = .obj ms ∧
      ((Source.members ms).optional "data" Json.readString).finish = .ok m.data ∧
      ((Source.members ms).optional "mark" Json.readString).finish = .ok m.mark ∧
      m.extra = recordShape.undeclared ms := by
  obtain ⟨data, mark, extra⟩ := m
  simp [read, RecordShape.readOpen_eq_ok_iff, Gather.finish_seq, Gather.finish_map, and_assoc]

theorem DataSource.read_eq_ok_iff {d : DataSource} :
    read v = .ok d ↔ ∃ ms, v = .obj ms ∧
      ((Source.members ms).required "name" Json.readString).finish = .ok d.name ∧
      ((Source.members ms).optional "source" Json.readString).finish = .ok d.source ∧
      ((Source.members ms).optional "url" TextOrSignal.read).finish = .ok d.url ∧
      ((Source.members ms).optional "format" Json.readAny).finish = .ok d.format ∧
      ((Source.members ms).optional "values" Json.readAny).finish = .ok d.values ∧
      ((Source.members ms).withDefault "transform" [] (Json.readList Json.readAny)).finish =
        .ok d.transform ∧
      d.extra = recordShape.undeclared ms := by
  obtain ⟨name, source, url, format, values, transform, extra⟩ := d
  simp [read, RecordShape.readOpen_eq_ok_iff, Gather.finish_seq, Gather.finish_map, and_assoc]

theorem Axis.read_eq_ok_iff {a : Axis} :
    read v = .ok a ↔ ∃ ms, v = .obj ms ∧
      ((Source.members ms).required "scale" Json.readString).finish = .ok a.scale ∧
      ((Source.members ms).optional "orient" Json.readString).finish = .ok a.orient ∧
      a.extra = recordShape.undeclared ms := by
  obtain ⟨scale, orient, extra⟩ := a
  simp [read, RecordShape.readOpen_eq_ok_iff, Gather.finish_seq, Gather.finish_map, and_assoc]

theorem Legend.read_eq_ok_iff {l : Legend} :
    read v = .ok l ↔ ∃ ms, v = .obj ms ∧
      ((Source.members ms).optional "fill" Json.readString).finish = .ok l.fill ∧
      ((Source.members ms).optional "stroke" Json.readString).finish = .ok l.stroke ∧
      ((Source.members ms).optional "size" Json.readString).finish = .ok l.size ∧
      ((Source.members ms).optional "shape" Json.readString).finish = .ok l.shape ∧
      ((Source.members ms).optional "opacity" Json.readString).finish = .ok l.opacity ∧
      l.extra = recordShape.undeclared ms := by
  obtain ⟨fill, stroke, size, shape, opacity, extra⟩ := l
  simp [read, RecordShape.readOpen_eq_ok_iff, Gather.finish_seq, Gather.finish_map, and_assoc]

theorem FieldReference.read_eq_ok_iff {r : FieldReference} :
    read v = .ok r ↔ ∃ ms, v = .obj ms ∧
      ((Source.members ms).required "data" Json.readString).finish = .ok r.data ∧
      ((Source.members ms).required "field" Json.readAny).finish = .ok r.field ∧
      r.extra = recordShape.undeclared ms := by
  obtain ⟨data, field, extra⟩ := r
  simp [read, RecordShape.readOpen_eq_ok_iff, Gather.finish_seq, Gather.finish_map, and_assoc]

theorem FieldReferences.read_eq_ok_iff {r : FieldReferences} :
    read v = .ok r ↔ ∃ ms, v = .obj ms ∧
      ((Source.members ms).required "fields" (Json.readList FieldReference.read)).finish =
        .ok r.fields ∧
      r.extra = recordShape.undeclared ms := by
  obtain ⟨fields, extra⟩ := r
  simp [read, RecordShape.readOpen_eq_ok_iff, Gather.finish_seq, Gather.finish_map]

theorem Scale.read_eq_ok_iff {s : Scale} :
    read v = .ok s ↔ ∃ ms, v = .obj ms ∧
      ((Source.members ms).required "name" Json.readString).finish = .ok s.name ∧
      ((Source.members ms).optional "type" Json.readString).finish = .ok s.kind ∧
      ((Source.members ms).optional "domain" Domain.read).finish = .ok s.domain ∧
      ((Source.members ms).optional "range" Range.read).finish = .ok s.range ∧
      s.extra = recordShape.undeclared ms := by
  obtain ⟨name, kind, domain, range, extra⟩ := s
  simp [read, RecordShape.readOpen_eq_ok_iff, Gather.finish_seq, Gather.finish_map, and_assoc]

/-- The encoding is an optional field under one of its two names, and the other name is absent. -/
theorem Mark.finish_readEncoding {e : Option Encoding} :
    (readEncoding (.members ms)).finish = .ok e ↔
      (Json.lookup "properties" ms = none ∧
        ((Source.members ms).optional "encode" Encoding.read).finish = .ok e) ∨
      (Json.lookup "encode" ms = none ∧
        ((Source.members ms).optional "properties" Encoding.read).finish = .ok e) := by
  obtain ⟨first, absent⟩ | ⟨f, first, found⟩ := Source.locate_cases "encode" ms
  · obtain ⟨second, absent'⟩ | ⟨g, second, found'⟩ := Source.locate_cases "properties" ms
    · simp [readEncoding, Source.find?, Source.optional, Source.withDefault, Source.slot,
        Slot.withDefault, first, second, absent, absent']
    · simp [readEncoding, Source.find?, Source.optional, first, second, absent, found']
  · obtain ⟨second, absent'⟩ | ⟨g, second, found'⟩ := Source.locate_cases "properties" ms
    · simp [readEncoding, Source.find?, Source.optional, first, second, absent', found]
    · simp [readEncoding, Source.find?, Gather.finish, first, second, found, found']

theorem Mark.read_eq_ok_iff {m : Mark} :
    read v = .ok m ↔ ∃ ms, v = .obj ms ∧
      ((Source.members ms).required "type" Json.readString).finish = .ok m.kind ∧
      ((Source.members ms).optional "name" Json.readString).finish = .ok m.name ∧
      ((Source.members ms).optional "from" MarkSource.read).finish = .ok m.source ∧
      (readEncoding (.members ms)).finish = .ok m.encoding ∧
      ((Source.members ms).withDefault "data" [] (Json.readList DataSource.read)).finish =
        .ok m.data ∧
      ((Source.members ms).withDefault "marks" [] (Json.readList read)).finish = .ok m.marks ∧
      ((Source.members ms).withDefault "scales" [] (Json.readList Scale.read)).finish =
        .ok m.scales ∧
      ((Source.members ms).withDefault "axes" [] (Json.readList Axis.read)).finish = .ok m.axes ∧
      ((Source.members ms).withDefault "legends" [] (Json.readList Legend.read)).finish =
        .ok m.legends ∧
      m.extra = recordShape.undeclared ms := by
  obtain ⟨kind, name, source, encoding, data, marks, scales, axes, legends, extra⟩ := m
  simp [read_eq, gather, Source.withDefault, RecordShape.readOpen_eq_ok_iff, Gather.finish_seq,
    Gather.finish_map, and_assoc]

theorem Mark.sizeOf_lt_of_mem_marks {m x : Mark} (held : x ∈ m.marks) : sizeOf x < sizeOf m := by
  obtain ⟨kind, name, source, encoding, data, marks, scales, axes, legends, extra⟩ := m
  have nested : sizeOf x < sizeOf marks := List.sizeOf_lt_of_mem held
  rw [Mark.mk.sizeOf_spec]
  omega

/-- What holds of a mark whenever it holds of the marks in it holds of every mark. -/
theorem Mark.induction {P : Mark → Prop} (step : ∀ m, (∀ x ∈ m.marks, P x) → P m) (m : Mark) :
    P m :=
  step m fun x _held => induction step x
termination_by m
decreasing_by exact sizeOf_lt_of_mem_marks _held

/-- What is written for the fields of a mark. The encoding is written under the first of its two
names, so the second is never written. -/
def Mark.writtenFields (m : Mark) : List (String × Option Json) :=
  [("type", some (.str m.kind)), ("name", m.name.map .str),
   ("from", m.source.map MarkSource.write), ("encode", m.encoding.map Encoding.write),
   ("data", Json.ofListUnlessEmpty DataSource.write m.data),
   ("marks", Json.ofListUnlessEmpty write m.marks),
   ("scales", Json.ofListUnlessEmpty Scale.write m.scales),
   ("axes", Json.ofListUnlessEmpty Axis.write m.axes),
   ("legends", Json.ofListUnlessEmpty Legend.write m.legends)]

theorem Mark.write_eq (m : Mark) : m.write = Json.openRecord m.writtenFields m.extra := by
  obtain ⟨kind, name, source, encoding, data, marks, scales, axes, legends, extra⟩ := m
  have nested : Json.ofListUnlessEmpty id (writeAll marks) = Json.ofListUnlessEmpty write marks := by
    rw [writeAll_eq_map]
    cases marks <;> simp [Json.ofListUnlessEmpty]
  rw [write, nested]
  rfl

/-- What a mark that was read is written as. -/
theorem Mark.exists_writes {m : Mark} (kept : m.extra = recordShape.undeclared ms) :
    ∃ ns, m.write = .obj ns ∧ recordShape.Writes m.writtenFields m.extra ns := by
  have declared : (["type", "name", "from", "encode", "data", "marks", "scales", "axes",
      "legends"] : List String).Sublist recordShape.fields := by decide
  exact RecordShape.Writes.of_undeclared m.write_eq kept declared (by decide)

theorem Mark.lookup_properties {m : Mark} {ns : List (String × Json)}
    (writes : recordShape.Writes m.writtenFields m.extra ns) :
    Json.lookup "properties" ns = none := by
  rw [writes.lookup_of_not_mem (by simp [writtenFields]), writes.apart _ (by decide)]

theorem Chart.read_eq_ok_iff {c : Chart} :
    read v = .ok c ↔ ∃ ms, v = .obj ms ∧
      ((Source.members ms).withDefault "$schema" defaultSchema Json.readString).finish =
        .ok c.schema ∧
      ((Source.members ms).withDefault "data" [] (Json.readList DataSource.read)).finish =
        .ok c.data ∧
      ((Source.members ms).withDefault "marks" [] (Json.readList Mark.read)).finish = .ok c.marks ∧
      ((Source.members ms).withDefault "scales" [] (Json.readList Scale.read)).finish =
        .ok c.scales ∧
      ((Source.members ms).withDefault "axes" [] (Json.readList Axis.read)).finish = .ok c.axes ∧
      ((Source.members ms).withDefault "legends" [] (Json.readList Legend.read)).finish =
        .ok c.legends ∧
      c.extra = recordShape.undeclared ms := by
  obtain ⟨schema, data, marks, scales, axes, legends, extra⟩ := c
  simp [read, RecordShape.readOpen_eq_ok_iff, Gather.finish_seq, Gather.finish_map, and_assoc]

/-! ## Sketches and marks of the scene -/

theorem ChannelDef.read_obj_eq_ok_iff {d : ChannelDef} :
    read (.obj ms) = .ok d ↔
      ((Source.members ms).required "type" Measure.read).finish = .ok d.measure ∧
      ((Source.members ms).required "field" Json.readString).finish = .ok d.field ∧
      ((Source.members ms).optional "aggregate" Aggregate.read).finish = .ok d.aggregate ∧
      ((Source.members ms).optional "bin" Json.readBool).finish = .ok d.bin := by
  obtain ⟨measure, field, aggregate, bin⟩ := d
  simp [read, RecordShape.readPlain, Gather.finish_seq, Gather.finish_map, and_assoc]

theorem Sketch.Data.read_eq_ok_iff {d : Data} :
    read v = .ok d ↔ ∃ ms, v = .obj ms ∧
      ((Source.members ms).optional "values" (Json.readList Json.readAny)).finish = .ok d.values ∧
      d.extra = recordShape.undeclared ms := by
  obtain ⟨values, extra⟩ := d
  simp [read, RecordShape.readOpen_eq_ok_iff, Gather.finish_seq, Gather.finish_map]

theorem Sketch.MarkStyle.read_eq_ok_iff {s : MarkStyle} :
    read v = .ok s ↔ ∃ ms, v = .obj ms ∧
      ((Source.members ms).optional "filled" Json.readBool).finish = .ok s.filled ∧
      s.extra = recordShape.undeclared ms := by
  obtain ⟨filled, extra⟩ := s
  simp [read, RecordShape.readOpen_eq_ok_iff, Gather.finish_seq, Gather.finish_map]

theorem Sketch.Config.read_eq_ok_iff {c : Config} :
    read v = .ok c ↔ ∃ ms, v = .obj ms ∧
      ((Source.members ms).optional "cell" Cell.read).finish = .ok c.cell ∧
      ((Source.members ms).optional "mark" MarkStyle.read).finish = .ok c.mark ∧
      c.extra = recordShape.undeclared ms := by
  obtain ⟨cell, mark, extra⟩ := c
  simp [read, RecordShape.readOpen_eq_ok_iff, Gather.finish_seq, Gather.finish_map, and_assoc]

theorem Sketch.read_eq_ok_iff {s : Sketch} :
    read v = .ok s ↔ ∃ ms, v = .obj ms ∧
      ((Source.members ms).required "mark" Shape.read).finish = .ok s.shape ∧
      ((Source.members ms).withDefault "data" ⟨none, ∅⟩ Data.read).finish = .ok s.data ∧
      ((Source.members ms).withDefault "encoding" ∅ (Json.readTable ChannelDef.read)).finish =
        .ok s.encoding ∧
      ((Source.members ms).withDefault "config" ⟨none, none, ∅⟩ Config.read).finish =
        .ok s.config ∧
      s.extra = recordShape.undeclared ms := by
  obtain ⟨shape, data, encoding, config, extra⟩ := s
  simp [read, RecordShape.readOpen_eq_ok_iff, Gather.finish_seq, Gather.finish_map, and_assoc]

theorem SceneMark.read_eq_ok_iff {m : SceneMark} :
    read v = .ok m ↔ ∃ ms, v = .obj ms ∧
      ((Source.members ms).required "id" Json.readId).finish = .ok m.id ∧
      ((Source.members ms).required "type" Json.readString).finish = .ok m.type ∧
      ((Source.members ms).optional "from" Link.read).finish = .ok m.link ∧
      m.extra = recordShape.undeclared ms := by
  obtain ⟨id, type, link, extra⟩ := m
  simp [read, RecordShape.readOpen_eq_ok_iff, Gather.finish_seq, Gather.finish_map, and_assoc]

end ChartBinding
