import ChartBinding.Compile
import ChartBinding.PlainCompiler
import ChartBinding.Proofs.Rereading

/-!
# Compilers on documents

A compiler can be run through documents: the sketch is written, read again on the other side and
compiled there, and the chart comes back in writing (`Compiler.onJson`). Nothing is lost on the way
there if the sketch keeps its leftover members apart from its fields (`Sketch.read_write`), and
nothing on the way back if the chart is one that can be read at all (`Chart.settles`). So the two
sides together compile like the compiler itself.
-/

namespace ChartBinding

open RecordShape

/-! ## Sketches in writing -/

namespace Sketch

/-- The leftover members of a sketch and of its parts have none of the names of their fields. -/
structure KeepsApart (s : Sketch) : Prop where
  own : recordShape.Apart s.extra
  data : Data.recordShape.Apart s.data.extra
  config : Config.recordShape.Apart s.config.extra
  style : ∀ m ∈ s.config.mark, MarkStyle.recordShape.Apart m.extra

theorem MarkStyle.read_write {s : MarkStyle} (apart : recordShape.Apart s.extra) :
    read s.write = .ok s := by
  obtain ⟨ns, written, writes⟩ :=
    Writes.of_apart (rfl : s.write = _) apart (.refl _) (by decide)
  have filled : Json.lookup "filled" ns = s.filled.map .bool := writes.lookup_field (by simp)
  rw [written, read_eq_ok_iff]
  refine ⟨ns, rfl, ?_, writes.undeclared_eq.symm⟩
  exact Source.finish_optional_of_read_write filled (fun _ _ => rfl) (fun _ _ => nofun)

theorem Data.read_write {d : Data} (apart : recordShape.Apart d.extra) :
    read d.write = .ok d := by
  obtain ⟨ns, written, writes⟩ :=
    Writes.of_apart (rfl : d.write = _) apart (.refl _) (by decide)
  have values : Json.lookup "values" ns = d.values.map .arr := writes.lookup_field (by simp)
  have elements (vs : List Json) : Json.readList Json.readAny (.arr vs) = .ok vs :=
    Json.readList_eq_ok_iff.2 ⟨vs, rfl, List.forall₂_same.2 fun _ _ => rfl⟩
  rw [written, read_eq_ok_iff]
  refine ⟨ns, rfl, ?_, writes.undeclared_eq.symm⟩
  exact Source.finish_optional_of_read_write values (fun vs _ => elements vs) (fun _ _ => nofun)

theorem Config.read_write {c : Config} (apart : recordShape.Apart c.extra)
    (style : ∀ m ∈ c.mark, MarkStyle.recordShape.Apart m.extra) : read c.write = .ok c := by
  obtain ⟨ns, written, writes⟩ :=
    Writes.of_apart (rfl : c.write = _) apart (.refl _) (by decide)
  rw [written, read_eq_ok_iff]
  refine ⟨ns, rfl, ?_, ?_, writes.undeclared_eq.symm⟩
  · exact Source.finish_optional_of_read_write (writes.lookup_field (by simp))
      (fun cell _ => cell.read_write) (fun _ _ => nofun)
  · exact Source.finish_optional_of_read_write (writes.lookup_field (by simp))
      (fun m held => MarkStyle.read_write (style m held)) (fun _ _ => nofun)

theorem read_write {s : Sketch} (apart : s.KeepsApart) : read s.write = .ok s := by
  obtain ⟨ns, written, writes⟩ :=
    Writes.of_apart (rfl : s.write = _) apart.own (.refl _) (by decide)
  have shape : Shape.read s.shape.write = .ok s.shape := by cases s.shape <;> rfl
  have encoding : Json.readTable ChannelDef.read (Json.ofTable ChannelDef.write s.encoding) =
      .ok s.encoding := Json.readMembers_entries s.encoding ChannelDef.read_write
  rw [written, read_eq_ok_iff]
  refine ⟨ns, rfl, ?_, ?_, ?_, ?_, writes.undeclared_eq.symm⟩
  · exact Source.finish_required.2 ⟨_, writes.lookup_field (by simp), shape⟩
  · exact Source.finish_withDefault.2
      (.inr ⟨_, writes.lookup_field (by simp), Data.read_write apart.data⟩)
  · exact Source.finish_withDefault.2 (.inr ⟨_, writes.lookup_field (by simp), encoding⟩)
  · exact Source.finish_withDefault.2
      (.inr ⟨_, writes.lookup_field (by simp), Config.read_write apart.config apart.style⟩)

end Sketch

/-! ## The other side -/

namespace Compiler

/-- The function on documents that reads a sketch, compiles it and writes the chart. Failures to
read or to compile are put into words. -/
def onJson (g : Compiler) (wording : Failure → String) : Json → Except String Json := fun v =>
  match (Attempt.ofRead (Sketch.read v)).bind g with
  | .error f => .error (wording f)
  | .ok c => .ok c.write

theorem onJson_write {s : Sketch} (apart : s.KeepsApart) (g : Compiler)
    (wording : Failure → String) :
    g.onJson wording s.write = ((g s).map Chart.write).mapError wording := by
  have arrives : (Attempt.ofRead (Sketch.read s.write)).bind g = g s := by
    rw [Sketch.read_write apart]
    rfl
  rw [onJson, arrives]
  cases g s <;> rfl

theorem ofJson_of_error {f : Json → Except String Json} {s : Sketch} {message : String}
    (refused : f s.write = .error message) :
    ofJson f s = .error (.ofCause (.compilation message)) := by
  rw [ofJson, refused]

theorem ofJson_of_ok {f : Json → Except String Json} {s : Sketch} {c : Chart} {v : Json}
    (compiled : f s.write = .ok v) (reads : Chart.read v = .ok c) : ofJson f s = .ok c := by
  rw [ofJson, compiled]
  show (Attempt.ofRead (Chart.read v)).withContext _ = _
  rw [reads]
  rfl

/-- **A compiler is the same through documents.** Let a sketch keep its leftover members apart, and
let any chart that a compiler makes of it be one that can be read. Run through documents, the
compiler makes the same chart, and it fails exactly where it would fail, as a compilation failure in
its own words. -/
theorem ofJson_onJson {s : Sketch} {g : Compiler} (apart : s.KeepsApart)
    (readable : ∀ c, g s = .ok c → ∃ v, Chart.read v = .ok c) (wording : Failure → String) :
    (∀ c, ofJson (g.onJson wording) s = .ok c ↔ g s = .ok c) ∧
      ∀ f, g s = .error f →
        ofJson (g.onJson wording) s = .error (.ofCause (.compilation (wording f))) := by
  have across := onJson_write apart g wording
  have fails (f : Failure) (failed : g s = .error f) :
      ofJson (g.onJson wording) s = .error (.ofCause (.compilation (wording f))) := by
    rw [failed] at across
    exact ofJson_of_error across
  refine ⟨fun c => ?_, fails⟩
  -- either the compiler fails on both sides, or the chart that it made has to survive the way back
  cases made : g s with
  | error f =>
      rw [fails f made]
      simp
  | ok c' =>
      obtain ⟨v, reads⟩ := readable c' made
      rw [made] at across
      rw [ofJson_of_ok across (c'.settles.again reads)]

end Compiler

/-- A sketch with leftover members in each of its parts. -/
def Sketch.annotated : Sketch :=
  { shape := .point
    data := ⟨some [.obj [("a", .int 1)], .null], Table.ofList [("name", .str "table")]⟩
    encoding := Table.ofList
      [("x", ⟨.quantitative, "a", some .mean, none⟩), ("color", ⟨.nominal, "b", none, some true⟩)]
    config :=
      ⟨some Settings.default.cell, some ⟨some false, Table.ofList [("opacity", .int 1)]⟩,
        Table.ofList [("padding", .int 5)]⟩
    extra := Table.ofList [("title", .str "Means"), ("width", .int 200)] }

theorem Compiler.ofJson_onJson_annotated :
    Sketch.annotated.KeepsApart ∧
      (∀ c, PlainCompiler.compile Sketch.annotated = .ok c → ∃ v, Chart.read v = .ok c) ∧
      ∃ c, PlainCompiler.compile Sketch.annotated = .ok c ∧
        ofJson (onJson PlainCompiler.compile Failure.text) Sketch.annotated = .ok c := by
  have apart : Sketch.annotated.KeepsApart :=
    ⟨by decide, by decide, by decide, by
      rintro m held
      obtain rfl := Option.some.inj held
      decide⟩
  have readable : ∀ c, PlainCompiler.compile Sketch.annotated = .ok c →
      ∃ v, Chart.read v = .ok c := by
    rintro c made
    obtain rfl := Except.ok.inj made
    exact ⟨(PlainCompiler.chart Sketch.annotated Settings.default.cell).write, by rfl⟩
  refine ⟨apart, readable, _, rfl, ?_⟩
  exact ((ofJson_onJson apart readable Failure.text).1 _).2 rfl

end ChartBinding
