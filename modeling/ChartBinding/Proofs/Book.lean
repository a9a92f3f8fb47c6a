import ChartBinding.Sketchbook

/-!
# Laws of the sketchbook

A book is seen through two look-ups, the sketch and the identities of a mark. Each change of a book
is given by what it does to both, for the mark it is made for and for every other mark.
-/

namespace ChartBinding

namespace Table

variable {κ α : Type} [Ord κ] [Std.TransOrd κ] [Std.LawfulEqOrd κ]

theorem insert_insert (t : Table κ α) (k : κ) (a a' : α) :
    (t.insert k a).insert k a' = t.insert k a' := by
  apply ext_find?
  intro k'
  by_cases h : k' = k
  · subst h
    rw [find?_insert_self, find?_insert_self]
  · rw [find?_insert_of_ne _ _ h, find?_insert_of_ne _ _ h, find?_insert_of_ne _ _ h]

end Table

namespace Shape

theorem ofMarkType_eq_ok_iff {type : String} {k : Shape} :
    ofMarkType type = .ok k ↔ ofMarkType? type = some k := by
  unfold ofMarkType
  cases ofMarkType? type with
  | none => simp
  | some k' => simp

/-- Five types of marks have a shape. -/
theorem ofMarkType?_isSome_iff {type : String} :
    (ofMarkType? type).isSome ↔ type ∈ ["rect", "symbol", "text", "line", "area"] := by
  unfold ofMarkType?
  rw [List.find?_isSome]
  constructor
  · rintro ⟨k, -, hk⟩
    have known : k.markType ∈ ["rect", "symbol", "text", "line", "area"] := by
      cases k <;> decide
    exact of_decide_eq_true hk ▸ known
  · intro h
    simp only [List.mem_cons, List.not_mem_nil, or_false] at h
    rcases h with rfl | rfl | rfl | rfl | rfl
    · exact ⟨.bar, by decide, by decide⟩
    · exact ⟨.point, by decide, by decide⟩
    · exact ⟨.text, by decide, by decide⟩
    · exact ⟨.line, by decide, by decide⟩
    · exact ⟨.area, by decide, by decide⟩

end Shape

namespace Sketchbook

/-- The book in which a mark has the given sketch and identities. -/
def setBoth (b : Sketchbook) (mark : MarkId) (s : Sketch) (i : Identities) : Sketchbook :=
  (b.setSketch mark s).setIdentities mark i

/-- What a channel of a mark shows. -/
def channel? (b : Sketchbook) (mark : MarkId) (c : Channel) : Option ChannelDef :=
  (b.sketch? mark).bind (·.encoding.find? c)

/-! ## Looking up after a change -/

@[simp] theorem sketch?_empty (mark : MarkId) : empty.sketch? mark = none := rfl

@[simp] theorem identities?_empty (mark : MarkId) : empty.identities? mark = none := rfl

@[simp] theorem sketch?_setBoth_self (b : Sketchbook) (mark : MarkId) (s : Sketch)
    (i : Identities) : (b.setBoth mark s i).sketch? mark = some s :=
  Table.find?_insert_self ..

@[simp] theorem identities?_setBoth_self (b : Sketchbook) (mark : MarkId) (s : Sketch)
    (i : Identities) : (b.setBoth mark s i).identities? mark = some i :=
  Table.find?_insert_self ..

@[simp] theorem identitiesFor_setBoth_self (b : Sketchbook) (mark : MarkId) (s : Sketch)
    (i : Identities) : (b.setBoth mark s i).identitiesFor mark = i := by
  rw [identitiesFor, identities?_setBoth_self, Option.getD_some]

theorem sketch?_setBoth_of_ne (b : Sketchbook) {mark other : MarkId} (s : Sketch)
    (i : Identities) (h : other ≠ mark) : (b.setBoth mark s i).sketch? other = b.sketch? other :=
  Table.find?_insert_of_ne _ _ h

theorem identities?_setBoth_of_ne (b : Sketchbook) {mark other : MarkId} (s : Sketch)
    (i : Identities) (h : other ≠ mark) :
    (b.setBoth mark s i).identities? other = b.identities? other :=
  Table.find?_insert_of_ne _ _ h

@[simp] theorem sketch?_evict_self (b : Sketchbook) (mark : MarkId) :
    (b.evict mark).sketch? mark = none :=
  Table.find?_erase_self ..

@[simp] theorem identities?_evict_self (b : Sketchbook) (mark : MarkId) :
    (b.evict mark).identities? mark = none :=
  Table.find?_erase_self ..

theorem sketch?_evict_of_ne (b : Sketchbook) {mark other : MarkId} (h : other ≠ mark) :
    (b.evict mark).sketch? other = b.sketch? other :=
  Table.find?_erase_of_ne _ h

theorem identities?_evict_of_ne (b : Sketchbook) {mark other : MarkId} (h : other ≠ mark) :
    (b.evict mark).identities? other = b.identities? other :=
  Table.find?_erase_of_ne _ h

/-- A change of a sketch changes the sketch that is there and makes none. -/
theorem sketch?_editSketch_self (b : Sketchbook) (mark : MarkId) (f : Sketch → Sketch) :
    (b.editSketch mark f).sketch? mark = (b.sketch? mark).map f := by
  unfold editSketch
  cases h : b.sketch? mark with
  | none => exact h
  | some s => exact Table.find?_insert_self ..

theorem sketch?_editSketch_of_ne (b : Sketchbook) {mark other : MarkId} (f : Sketch → Sketch)
    (h : other ≠ mark) : (b.editSketch mark f).sketch? other = b.sketch? other := by
  unfold editSketch
  cases b.sketch? mark with
  | none => rfl
  | some s => exact Table.find?_insert_of_ne _ _ h

@[simp] theorem identities?_editSketch (b : Sketchbook) (mark other : MarkId)
    (f : Sketch → Sketch) : (b.editSketch mark f).identities? other = b.identities? other := by
  unfold editSketch
  cases b.sketch? mark <;> rfl

/-! ## Opening -/

theorem sketchFor_eq_ok_iff {b : Sketchbook} {mark : MarkId} {type : String} {s : Sketch} :
    b.sketchFor mark type = .ok s ↔
      b.sketch? mark = some s ∨
        b.sketch? mark = none ∧ ∃ k, Shape.ofMarkType? type = some k ∧ s = Sketch.ofShape k := by
  -- A sketch that is there hides the type, so the two cases exclude each other.
  unfold sketchFor
  cases b.sketch? mark with
  | some s' => simp
  | none =>
      constructor
      · intro h
        cases hk : Shape.ofMarkType type with
        | error f =>
            simp only [hk, Except.map] at h
            cases h
        | ok k =>
            simp only [hk, Except.map] at h
            cases h
            exact .inr ⟨rfl, k, Shape.ofMarkType_eq_ok_iff.1 hk, rfl⟩
      · rintro (h | ⟨-, k, hk, rfl⟩)
        · cases h
        · simp only [Shape.ofMarkType_eq_ok_iff.2 hk, Except.map]

/-- An opened sketch has the channels that the mark had. -/
theorem encoding_of_sketchFor {b : Sketchbook} {mark : MarkId} {type : String} {s : Sketch}
    (h : b.sketchFor mark type = .ok s) :
    s.encoding = ((b.sketch? mark).map Sketch.encoding).getD ∅ := by
  rcases sketchFor_eq_ok_iff.1 h with old | ⟨new, _, -, rfl⟩
  · rw [old]
    rfl
  · rw [new]
    rfl

/-- Opening a sketch fills no channel. -/
theorem channel?_setBoth_of_sketchFor {b : Sketchbook} {mark : MarkId} {type : String}
    {s : Sketch} (h : b.sketchFor mark type = .ok s) (i : Identities) (other : MarkId)
    (c : Channel) : (b.setBoth mark s i).channel? other c = b.channel? other c := by
  unfold channel?
  by_cases ho : other = mark
  · -- A new sketch has no channels, and neither had the mark without a sketch.
    subst ho
    rw [sketch?_setBoth_self]
    rcases sketchFor_eq_ok_iff.1 h with old | ⟨new, k, -, rfl⟩
    · rw [old]
    · rw [new]
      rfl
  · rw [sketch?_setBoth_of_ne _ _ _ ho]

/-- A sketch that cannot be opened is not there, and its mark's type has no shape. -/
theorem of_sketchFor_error {b : Sketchbook} {mark : MarkId} {type : String} {f : Failure}
    (h : b.sketchFor mark type = .error f) :
    b.sketch? mark = none ∧ Shape.ofMarkType? type = none := by
  have new : b.sketch? mark = none := by
    refine Option.eq_none_iff_forall_ne_some.2 fun s old => ?_
    rw [sketchFor_eq_ok_iff.2 (.inl old)] at h
    cases h
  refine ⟨new, Option.eq_none_iff_forall_ne_some.2 fun k known => ?_⟩
  rw [sketchFor_eq_ok_iff.2 (.inr ⟨new, k, known, rfl⟩)] at h
  cases h

/-! ## Changes one after another -/

theorem setIdentities_setIdentities (b : Sketchbook) (mark : MarkId) (i i' : Identities) :
    (b.setIdentities mark i).setIdentities mark i' = b.setIdentities mark i' := by
  simp only [setIdentities, Table.insert_insert]

@[simp] theorem setSketch_setBoth (b : Sketchbook) (mark : MarkId) (s s' : Sketch)
    (i : Identities) : (b.setBoth mark s i).setSketch mark s' = b.setBoth mark s' i := by
  simp only [setBoth, setSketch, setIdentities, Table.insert_insert]

@[simp] theorem setIdentities_setBoth (b : Sketchbook) (mark : MarkId) (s : Sketch)
    (i i' : Identities) : (b.setBoth mark s i).setIdentities mark i' = b.setBoth mark s i' := by
  simp only [setBoth, setSketch, setIdentities, Table.insert_insert]

/-- Opening a sketch also opens the identities, with those that the mark has already. -/
theorem openIdentities_setSketch (b : Sketchbook) (mark : MarkId) (s : Sketch) :
    (b.setSketch mark s).openIdentities mark = b.setBoth mark s (b.identitiesFor mark) := rfl

end Sketchbook

end ChartBinding
