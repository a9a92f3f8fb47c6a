import ChartBinding.Proofs.Course

/-!
# What a compiler is given

A compiler is given a copy of the sketch. The rows, the size of the plotting surface and, for some
properties, the style of marks are put into the copy whatever the sketch says of them, and all else
is the sketch's (`Sketch.IsCopy`). That settles the copy (`Sketch.IsCopy.unique`). None of what is
put in is taken from the sketch, so the copy is a copy of itself (`Sketch.IsCopy.again`), and
compiling it once more changes nothing.
-/

namespace ChartBinding

namespace Sketch

variable {s t t' : Sketch} {property : String} {rows : Option Rows} {settings : Settings}

/-- The copy of a sketch that is made to compile it for a property. -/
structure IsCopy (s : Sketch) (property : String) (rows : Option Rows) (settings : Settings)
    (t : Sketch) : Prop where
  /-- The rows of this call, and none if it has none. -/
  values : t.data.values = rows
  cell : t.config.cell = some ⟨settings.cellWidth, settings.cellHeight⟩
  /-- Some properties call for filled marks, and then nothing else is said of the style. -/
  filled : property ∈ settings.filledProperties → t.config.mark = some ⟨some true, ∅⟩
  style : property ∉ settings.filledProperties → t.config.mark = s.config.mark
  shape : t.shape = s.shape
  encoding : t.encoding = s.encoding
  dataExtra : t.data.extra = s.data.extra
  configExtra : t.config.extra = s.config.extra
  extra : t.extra = s.extra

namespace IsCopy

/-- There is only one copy. -/
theorem unique (h : s.IsCopy property rows settings t) (h' : s.IsCopy property rows settings t') :
    t = t' := by
  have marks : t.config.mark = t'.config.mark := by
    by_cases fills : property ∈ settings.filledProperties
    · rw [h.filled fills, h'.filled fills]
    · rw [h.style fills, h'.style fills]
  obtain ⟨shape, ⟨values, dataExtra⟩, encoding, ⟨cell, mark, configExtra⟩, extra⟩ := t
  obtain ⟨shape', ⟨values', dataExtra'⟩, encoding', ⟨cell', mark', configExtra'⟩, extra'⟩ := t'
  obtain rfl : values = values' := h.values.trans h'.values.symm
  obtain rfl : cell = cell' := h.cell.trans h'.cell.symm
  obtain rfl : mark = mark' := marks
  obtain rfl : shape = shape' := h.shape.trans h'.shape.symm
  obtain rfl : encoding = encoding' := h.encoding.trans h'.encoding.symm
  obtain rfl : dataExtra = dataExtra' := h.dataExtra.trans h'.dataExtra.symm
  obtain rfl : configExtra = configExtra' := h.configExtra.trans h'.configExtra.symm
  obtain rfl : extra = extra' := h.extra.trans h'.extra.symm
  rfl

/-- A copy is a copy of itself. -/
theorem again (h : s.IsCopy property rows settings t) : t.IsCopy property rows settings t where
  values := h.values
  cell := h.cell
  filled := h.filled
  style _ := rfl
  shape := rfl
  encoding := rfl
  dataExtra := rfl
  configExtra := rfl
  extra := rfl

end IsCopy

theorem isCopy_prepared (s : Sketch) (property : String) (rows : Option Rows)
    (settings : Settings) :
    s.IsCopy property rows settings (s.prepared property rows settings) where
  values := rfl
  cell := rfl
  filled fills := if_pos (List.contains_iff_mem.2 fills)
  style keeps := if_neg fun fills => keeps (List.contains_iff_mem.1 fills)
  shape := rfl
  encoding := rfl
  dataExtra := rfl
  configExtra := rfl
  extra := rfl

theorem isCopy_iff : s.IsCopy property rows settings t ↔ t = s.prepared property rows settings := by
  constructor
  · intro copy
    exact copy.unique (s.isCopy_prepared property rows settings)
  · rintro rfl
    exact s.isCopy_prepared property rows settings

/-- Preparing a sketch twice is preparing it once. -/
theorem prepared_prepared (s : Sketch) (property : String) (rows : Option Rows)
    (settings : Settings) :
    (s.prepared property rows settings).prepared property rows settings =
      s.prepared property rows settings :=
  (isCopy_iff.1 (s.isCopy_prepared property rows settings).again).symm

/-- **A compilation is that of the copy.** Whatever a sketch already has in it, what its compiler
is given is the copy; the chart comes with that copy, and a failure is the compiler's own. The copy
compiles to the same, and is then given as it is. A binder that compiles a sketch hands over the
copy once and leaves the book, and all else it works on, as it was. -/
theorem compiled_as_copy (s : Sketch) (property : String) (rows : Option Rows)
    (settings : Settings) (compiler : Compiler) :
    let input := s.prepared property rows settings
    (∀ t, s.IsCopy property rows settings t ↔ t = input) ∧
      (∀ f, s.compile property rows settings compiler = .error f ↔ compiler input = .error f) ∧
      (∀ made, s.compile property rows settings compiler = .ok made ↔
        made.input = input ∧ compiler input = .ok made.output) ∧
      input.prepared property rows settings = input ∧
      input.compile property rows settings compiler =
        s.compile property rows settings compiler ∧
      ∀ {σ ω : Type} (b : Binder σ ω) (w : Workspace σ ω) (datasets : Dataset.Cache) (r : Binding),
        let o := (b.compile datasets r s).run w
        let shown := datasets.output r.dataset
        o.state = w ∧ Trace.sketches o.events = [s.prepared r.property shown b.settings] ∧
          o.result = s.compile r.property shown b.settings b.compiler := by
  intro input
  have once : s.compile property rows settings compiler =
      (compiler input).map (Compiled.mk input) := s.compile_eq_map ..
  have twice : input.prepared property rows settings = input := s.prepared_prepared ..
  refine ⟨fun t => isCopy_iff, ?_, ?_, twice, ?_, ?_⟩
  · intro f
    rw [once]
    cases compiler input <;> simp [Except.map]
  · rintro ⟨given, chart⟩
    rw [once]
    cases compiler input with
    | error f => simp [Except.map]
    | ok c => simp [Except.map, eq_comm]
  · rw [compile_eq_map, twice, once]
  · intro σ ω b w datasets r
    have account := b.account_compile w datasets r s
    exact ⟨account.state, account.sketches, account.result⟩

end Sketch

end ChartBinding
