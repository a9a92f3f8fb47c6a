import ChartBinding.Proofs.Readings

/-!
# The forms of domains and ranges

The form of a domain or a range is told from the value alone, by the first form that fits; a value
of no other form is held as it is (`Scale.Domain.ofJson_cases`).

The signal comes before the list. A record that has no place for undeclared members may be given by
position, and a signal is such a record, of one field: so a list that holds one text and nothing
else has the form of a signal (`Signal.read_arr_eq_ok_iff`). Every other list is held as a list and
written back as it was; a lone text is written back as a signal of that name (`Scale.HoldsList`).
-/

namespace ChartBinding

/-! ## The first form that fits -/

namespace Scale

theorem Domain.ofJson_of_field {v : Json} {r : FieldReference}
    (field : FieldReference.read v = .ok r) : ofJson v = .field r := by
  simp [ofJson, field]

theorem Domain.ofJson_of_fields {v : Json} {r : FieldReferences}
    (single : ∀ q, FieldReference.read v ≠ .ok q) (fields : FieldReferences.read v = .ok r) :
    ofJson v = .fields r := by
  cases field : FieldReference.read v with
  | ok q => exact absurd field (single q)
  | error e => simp [ofJson, field, fields]

/-- A range is a signal if it reads as one; otherwise it is held as it is. -/
theorem Range.ofJson_cases (v : Json) :
    (∃ s, Signal.read v = .ok s ∧ ofJson v = .signal s) ∨
    (∀ s, Signal.read v ≠ .ok s) ∧ (ofJson v).write = v := by
  cases signal : Signal.read v with
  | ok s => exact .inl ⟨s, rfl, by simp [ofJson, signal]⟩
  | error e =>
      refine .inr ⟨nofun, ?_⟩
      cases v <;> simp [ofJson, signal, write]

/-- A domain is a field, several fields or a signal if it reads as one, the first that fits;
otherwise it is held as it is. -/
theorem Domain.ofJson_cases (v : Json) :
    (∃ r, FieldReference.read v = .ok r ∧ ofJson v = .field r) ∨
    (∀ r, FieldReference.read v ≠ .ok r) ∧
      ((∃ r, FieldReferences.read v = .ok r ∧ ofJson v = .fields r) ∨
      (∀ r, FieldReferences.read v ≠ .ok r) ∧
        ((∃ s, Signal.read v = .ok s ∧ ofJson v = .signal s) ∨
        (∀ s, Signal.read v ≠ .ok s) ∧ (ofJson v).write = v)) := by
  cases field : FieldReference.read v with
  | ok r => exact .inl ⟨r, rfl, ofJson_of_field field⟩
  | error e =>
      have single : ∀ r, FieldReference.read v ≠ .ok r := by simp [field]
      refine .inr ⟨nofun, ?_⟩
      cases fields : FieldReferences.read v with
      | ok r => exact .inl ⟨r, rfl, ofJson_of_fields single fields⟩
      | error e =>
          refine .inr ⟨nofun, ?_⟩
          cases signal : Signal.read v with
          | ok s => exact .inl ⟨s, rfl, by simp [ofJson, field, fields, signal]⟩
          | error e =>
              refine .inr ⟨nofun, ?_⟩
              cases v <;> simp [ofJson, field, fields, signal, write]

end Scale

/-! ## Lists -/

/-- **A list is a signal exactly if it holds one text and nothing else.** -/
theorem Signal.read_arr_eq_ok_iff {xs : List Json} {s : Signal} :
    read (.arr xs) = .ok s ↔ xs = [.str s.signal] := by
  obtain ⟨name⟩ := s
  match xs with
  | [] => exact iff_of_false nofun nofun
  | [.str t] => exact ⟨fun h => by cases h; rfl, fun h => by cases h; rfl⟩
  | [.null] | [.bool _] | [.int _] | [.float _] | [.arr _] | [.obj _] =>
      exact iff_of_false nofun nofun
  | v :: w :: rest =>
      -- The first element may read as the field; what is left over is a fault all the same.
      refine iff_of_false (fun h => ?_) nofun
      cases v <;> simp [read, RecordShape.readPlain, recordShape, Source.required, Source.slot,
        Source.find?, Json.readString, Slot.required, Gather.finish, Functor.map, Gather.seq,
        Fault.earlier, bind, Except.bind, pure, Except.pure] at h

namespace Scale

theorem Domain.ofJson_arr {xs : List Json} (several : ∀ t, xs ≠ [.str t]) :
    ofJson (.arr xs) = .list xs := by
  cases signal : Signal.read (.arr xs) with
  | ok s => exact absurd (Signal.read_arr_eq_ok_iff.1 signal) (several s.signal)
  | error e => simp [ofJson, FieldReference.read, FieldReferences.read, RecordShape.readOpen, signal]

theorem Range.ofJson_arr {xs : List Json} (several : ∀ t, xs ≠ [.str t]) :
    ofJson (.arr xs) = .list xs := by
  cases signal : Signal.read (.arr xs) with
  | ok s => exact absurd (Signal.read_arr_eq_ok_iff.1 signal) (several s.signal)
  | error e => simp [ofJson, signal]

/-! ## Scales -/

/-- How a scale holds a list that was given as its domain or its range: in the forms of either,
`list` and `signal`, it holds `held` and writes `written`. -/
structure HoldsList {α : Type} (list : List Json → α) (signal : Signal → α) (xs : List Json)
    (held : Option α) (written : Option Json) : Prop where
  /-- Anything but one lone text is kept as it is. -/
  kept : (∀ t, xs ≠ [.str t]) → held = some (list xs) ∧ written = some (.arr xs)
  /-- A lone text becomes the signal of that name. -/
  lone : ∀ t, xs = [.str t] →
    held = some (signal ⟨t⟩) ∧ written = some (.obj [("signal", .str t)])

theorem Domain.holdsList (xs : List Json) :
    HoldsList .list .signal xs (some (ofJson (.arr xs)))
      (some (Domain.write (ofJson (.arr xs)))) where
  kept several := by
    rw [ofJson_arr several]
    exact ⟨rfl, rfl⟩
  lone t h := by
    rw [h]
    exact ⟨rfl, rfl⟩

theorem Range.holdsList (xs : List Json) :
    HoldsList .list .signal xs (some (ofJson (.arr xs)))
      (some (Range.write (ofJson (.arr xs)))) where
  kept several := by
    rw [ofJson_arr several]
    exact ⟨rfl, rfl⟩
  lone t h := by
    rw [h]
    exact ⟨rfl, rfl⟩

/-- What was read of a field whose form fits every value. -/
theorem eq_ofJson_of_finish_optional {α : Type} {ms : List (String × Json)} {name : String}
    {ofJson : Json → α} {a : Option α} {v : Json}
    (reads : ((Source.members ms).optional name fun v => .ok (ofJson v)).finish = .ok a)
    (found : Json.lookup name ms = some v) (given : v ≠ .null) : a = some (ofJson v) := by
  rw [Source.finish_optional, found] at reads
  simpa [Json.readOption_of_ne_null given, Except.map, eq_comm] using reads

/-- What stands under the domain and the range of a scale that was read and written. -/
theorem get?_write {v : Json} {s : Scale} (reads : read v = .ok s) :
    s.write.get? "domain" = s.domain.map Domain.write ∧
      s.write.get? "range" = s.range.map Range.write := by
  obtain ⟨ms, rfl, -, -, -, -, kept⟩ := read_eq_ok_iff.1 reads
  obtain ⟨ns, written, writes⟩ :=
    RecordShape.Writes.of_undeclared (rfl : s.write = _) kept (.refl _) (by decide)
  rw [written]
  exact ⟨writes.lookup_field (by simp), writes.lookup_field (by simp)⟩

/-- **A list stays a list unless it holds one text and nothing else.** Whatever object reads as a
scale: a list under its domain or its range, of any length and with any elements, is held as the
list of the same elements and written back as it was, and only one lone text is held and written as
a signal. -/
theorem lists_kept_unless_lone_text {ms : List (String × Json)} {s : Scale}
    (reads : read (.obj ms) = .ok s) (xs : List Json) :
    (Json.lookup "domain" ms = some (.arr xs) →
      HoldsList .list .signal xs s.domain (s.write.get? "domain")) ∧
    (Json.lookup "range" ms = some (.arr xs) →
      HoldsList .list .signal xs s.range (s.write.get? "range")) := by
  obtain ⟨domainWritten, rangeWritten⟩ := get?_write reads
  obtain ⟨_, same, -, -, domainReads, rangeReads, -⟩ := read_eq_ok_iff.1 reads
  cases same
  rw [domainWritten, rangeWritten]
  constructor
  · intro found
    rw [eq_ofJson_of_finish_optional domainReads found nofun]
    exact Domain.holdsList xs
  · intro found
    rw [eq_ofJson_of_finish_optional rangeReads found nofun]
    exact Range.holdsList xs

/-- A scale with a list of categories of several kinds and one lone colour. -/
theorem lists_kept_unless_lone_text_colours :
    ∃ s, read (.obj [("name", .str "color"), ("domain", .arr [.str "a", .null, .int 3]),
        ("range", .arr [.str "red"])]) = .ok s ∧
      s.domain = some (.list [.str "a", .null, .int 3]) ∧
      s.write.get? "domain" = some (.arr [.str "a", .null, .int 3]) ∧
      s.range = some (.signal ⟨"red"⟩) ∧
      s.write.get? "range" = some (.obj [("signal", .str "red")]) := by
  have reads : read (.obj [("name", .str "color"), ("domain", .arr [.str "a", .null, .int 3]),
      ("range", .arr [.str "red"])]) =
      .ok ⟨"color", none, some (.list [.str "a", .null, .int 3]), some (.signal ⟨"red"⟩), ∅⟩ := rfl
  refine ⟨_, reads, ?_⟩
  obtain ⟨domainHeld, domainWritten⟩ :=
    ((lists_kept_unless_lone_text reads [.str "a", .null, .int 3]).1 rfl).kept (by simp)
  obtain ⟨rangeHeld, rangeWritten⟩ :=
    ((lists_kept_unless_lone_text reads [.str "red"]).2 rfl).lone "red" rfl
  exact ⟨domainHeld, domainWritten, rangeHeld, rangeWritten⟩

/-- A lone colour is not kept as a list, and it is not written back as one. -/
theorem lone_colour_becomes_signal :
    ∃ s, read (.obj [("name", .str "color"), ("range", .arr [.str "red"])]) = .ok s ∧
      (∀ xs, s.range ≠ some (.list xs)) ∧
      s.write.get? "range" ≠ some (.arr [.str "red"]) :=
  ⟨⟨"color", none, none, some (.signal ⟨"red"⟩), ∅⟩, rfl, nofun, nofun⟩

end Scale

end ChartBinding
