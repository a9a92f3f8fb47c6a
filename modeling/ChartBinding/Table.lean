/-!
# Tables

A finite map kept as a list of entries in strictly increasing key order. The order is part of the
type, so a table is determined by its look-ups (`Table.ext_find?`) and its entries are always
listed by increasing key, whatever the order in which they were put in.

Each operation is pinned down by one equation on `find?`: `find?_insert`, `find?_erase`,
`find?_ofList`, `find?_map`.
-/

namespace ChartBinding

universe u v

/-- A finite map: its entries by strictly increasing key. -/
structure Table (κ : Type u) (α : Type v) [Ord κ] where
  entries : List (κ × α)
  increasing : entries.Pairwise fun a b => compare a.1 b.1 = .lt

namespace Table

variable {κ : Type u} {α β : Type v} [Ord κ]

/-! ## Entry lists -/

namespace Entries

/-- The value of the first entry under `k`. -/
def find? (k : κ) : List (κ × α) → Option α
  | [] => none
  | (k', a) :: rest => if compare k k' = .eq then some a else find? k rest

/-- Puts `a` under `k` at its place in the order, instead of the entry that stood there. -/
def insert (k : κ) (a : α) : List (κ × α) → List (κ × α)
  | [] => [(k, a)]
  | (k', b) :: rest =>
    match compare k k' with
    | .lt => (k, a) :: (k', b) :: rest
    | .eq => (k, a) :: rest
    | .gt => (k', b) :: insert k a rest

/-- Drops the entry under `k`. -/
def erase (k : κ) : List (κ × α) → List (κ × α)
  | [] => []
  | (k', b) :: rest => if compare k k' = .eq then rest else (k', b) :: erase k rest

/-- Strictly increasing keys. -/
abbrev Increasing (l : List (κ × α)) : Prop :=
  l.Pairwise fun a b => compare a.1 b.1 = .lt

theorem mem_of_mem_erase {k : κ} {e : κ × α} :
    ∀ {l : List (κ × α)}, e ∈ erase k l → e ∈ l
  | [], h => h
  | (k', b) :: rest, h => by
    unfold erase at h
    split at h
    · exact List.mem_cons_of_mem _ h
    · rcases List.mem_cons.1 h with h | h
      · exact h ▸ List.mem_cons_self
      · exact List.mem_cons_of_mem _ (mem_of_mem_erase h)

theorem increasing_erase (k : κ) :
    ∀ {l : List (κ × α)}, Increasing l → Increasing (erase k l)
  | [], h => h
  | (k', b) :: rest, h => by
    have hc := List.pairwise_cons.1 h
    unfold erase
    split
    · exact hc.2
    · exact List.pairwise_cons.2
        ⟨fun e he => hc.1 e (mem_of_mem_erase he), increasing_erase k hc.2⟩

theorem find?_eq_none_of_lt {k : κ} :
    ∀ {l : List (κ × α)}, (∀ e ∈ l, compare k e.1 = .lt) → find? k l = none
  | [], _ => rfl
  | (k', a) :: rest, h => by
    have hk := h (k', a) List.mem_cons_self
    simp only at hk
    simp [find?, hk, find?_eq_none_of_lt fun e he => h e (List.mem_cons_of_mem _ he)]

theorem mem_insert {k : κ} {a : α} {e : κ × α} :
    ∀ {l : List (κ × α)}, e ∈ insert k a l → e = (k, a) ∨ e ∈ l
  | [], h => .inl (List.mem_singleton.1 h)
  | (k', b) :: rest, h => by
    unfold insert at h
    split at h
    · exact List.mem_cons.1 h
    · rcases List.mem_cons.1 h with h | h
      · exact .inl h
      · exact .inr (List.mem_cons_of_mem _ h)
    · rcases List.mem_cons.1 h with h | h
      · exact .inr (h ▸ List.mem_cons_self)
      · exact (mem_insert h).imp_right (List.mem_cons_of_mem _)

section

variable [Std.LawfulEqOrd κ]

theorem find?_insert (k k' : κ) (a : α) :
    ∀ l : List (κ × α), Increasing l →
      find? k' (insert k a l) = if compare k' k = .eq then some a else find? k' l
  | [], _ => by simp [insert, find?]
  | (k₀, b) :: rest, h => by
    have hc := List.pairwise_cons.1 h
    unfold insert
    split
    · simp [find?]
    · rename_i heq
      cases Std.LawfulEqOrd.eq_of_compare heq
      by_cases hk : compare k' k = .eq <;> simp [find?, hk]
    · rename_i hgt
      by_cases hk₀ : compare k' k₀ = .eq
      · cases Std.LawfulEqOrd.eq_of_compare hk₀
        have : compare k' k ≠ .eq := by
          intro hk
          cases Std.LawfulEqOrd.eq_of_compare hk
          simp [Std.ReflOrd.compare_self] at hgt
        simp [find?, this]
      · simp [find?, hk₀, find?_insert k k' a rest hc.2]

theorem find?_erase (k k' : κ) :
    ∀ l : List (κ × α), Increasing l →
      find? k' (erase k l) = if compare k' k = .eq then none else find? k' l
  | [], _ => by simp [erase, find?]
  | (k₀, b) :: rest, h => by
    have hc := List.pairwise_cons.1 h
    unfold erase
    split
    · rename_i heq
      cases Std.LawfulEqOrd.eq_of_compare heq
      by_cases hk : compare k' k = .eq
      · cases Std.LawfulEqOrd.eq_of_compare hk
        simpa [Std.ReflOrd.compare_self] using find?_eq_none_of_lt hc.1
      · simp [find?, hk]
    · rename_i hne
      by_cases hk₀ : compare k' k₀ = .eq
      · cases Std.LawfulEqOrd.eq_of_compare hk₀
        have : compare k' k ≠ .eq := by
          intro hk
          cases Std.LawfulEqOrd.eq_of_compare hk
          exact hne Std.ReflOrd.compare_self
        simp [find?, this]
      · simp [find?, hk₀, find?_erase k k' rest hc.2]

end

variable [Std.TransOrd κ]

theorem increasing_insert (k : κ) (a : α) :
    ∀ {l : List (κ × α)}, Increasing l → Increasing (insert k a l)
  | [], _ => List.pairwise_singleton ..
  | (k', b) :: rest, h => by
    have hc := List.pairwise_cons.1 h
    unfold insert
    split
    · rename_i hlt
      refine List.pairwise_cons.2 ⟨fun e he => ?_, h⟩
      rcases List.mem_cons.1 he with he | he
      · exact he ▸ hlt
      · exact Std.TransCmp.lt_trans hlt (hc.1 e he)
    · rename_i heq
      exact List.pairwise_cons.2
        ⟨fun e he => Std.TransCmp.lt_of_eq_of_lt heq (hc.1 e he), hc.2⟩
    · rename_i hgt
      refine List.pairwise_cons.2 ⟨fun e he => ?_, increasing_insert k a hc.2⟩
      rcases mem_insert he with he | he
      · exact he ▸ Std.OrientedCmp.lt_of_gt hgt
      · exact hc.1 e he

variable [Std.LawfulEqOrd κ]

/-- An increasing list is determined by its look-ups. -/
theorem eq_of_find?_eq :
    ∀ {l l' : List (κ × α)}, Increasing l → Increasing l' →
      (∀ k, find? k l = find? k l') → l = l'
  | [], [], _, _, _ => rfl
  | [], (k, a) :: _, _, _, h => by simpa [find?, Std.ReflOrd.compare_self] using h k
  | (k, a) :: _, [], _, _, h => by simpa [find?, Std.ReflOrd.compare_self] using h k
  | (k, a) :: rest, (k', a') :: rest', hl, hl', h => by
    have hc := List.pairwise_cons.1 hl
    have hc' := List.pairwise_cons.1 hl'
    have hkk : compare k k' = .eq := by
      match hcmp : compare k k' with
      | .eq => rfl
      | .lt =>
        have hk := h k
        rw [find?_eq_none_of_lt (l := (k', a') :: rest')] at hk
        · simp [find?, Std.ReflOrd.compare_self] at hk
        · intro e he
          rcases List.mem_cons.1 he with he | he
          · exact he ▸ hcmp
          · exact Std.TransCmp.lt_trans hcmp (hc'.1 e he)
      | .gt =>
        have hk := h k'
        rw [find?_eq_none_of_lt (l := (k, a) :: rest)] at hk
        · simp [find?, Std.ReflOrd.compare_self] at hk
        · intro e he
          rcases List.mem_cons.1 he with he | he
          · exact he ▸ Std.OrientedCmp.lt_of_gt hcmp
          · exact Std.TransCmp.lt_trans (Std.OrientedCmp.lt_of_gt hcmp) (hc.1 e he)
    cases Std.LawfulEqOrd.eq_of_compare hkk
    have ha : a = a' := by simpa [find?, Std.ReflOrd.compare_self] using h k
    cases ha
    congr 1
    refine eq_of_find?_eq hc.2 hc'.2 fun k₁ => ?_
    by_cases hk₁ : compare k₁ k = .eq
    · cases Std.LawfulEqOrd.eq_of_compare hk₁
      rw [find?_eq_none_of_lt hc.1, find?_eq_none_of_lt hc'.1]
    · simpa [find?, hk₁] using h k₁

end Entries

/-! ## Operations -/

def empty : Table κ α := ⟨[], .nil⟩

instance : EmptyCollection (Table κ α) := ⟨empty⟩
instance : Inhabited (Table κ α) := ⟨empty⟩

def find? (t : Table κ α) (k : κ) : Option α := Entries.find? k t.entries

def contains (t : Table κ α) (k : κ) : Bool := (t.find? k).isSome

def keys (t : Table κ α) : List κ := t.entries.map (·.1)

def isEmpty (t : Table κ α) : Bool := t.entries.isEmpty

def erase (t : Table κ α) (k : κ) : Table κ α :=
  ⟨Entries.erase k t.entries, Entries.increasing_erase k t.increasing⟩

def map (t : Table κ α) (f : α → β) : Table κ β :=
  ⟨t.entries.map fun e => (e.1, f e.2), List.pairwise_map.2 t.increasing⟩

@[simp] theorem find?_empty (k : κ) : (∅ : Table κ α).find? k = none := rfl

@[simp] theorem find?_map (t : Table κ α) (f : α → β) (k : κ) :
    (t.map f).find? k = (t.find? k).map f := by
  show Entries.find? k (t.entries.map fun e => (e.1, f e.2)) = (Entries.find? k t.entries).map f
  induction t.entries with
  | nil => rfl
  | cons e rest ih => by_cases h : compare k e.1 = .eq <;> simp [Entries.find?, h, ih]

section

variable [Std.LawfulEqOrd κ]

theorem find?_erase (t : Table κ α) (k k' : κ) :
    (t.erase k).find? k' = if compare k' k = .eq then none else t.find? k' :=
  Entries.find?_erase k k' t.entries t.increasing

@[simp] theorem find?_erase_self (t : Table κ α) (k : κ) : (t.erase k).find? k = none := by
  simp [find?_erase, Std.ReflOrd.compare_self]

theorem find?_erase_of_ne (t : Table κ α) {k k' : κ} (h : k' ≠ k) :
    (t.erase k).find? k' = t.find? k' := by
  rw [find?_erase, if_neg fun hc => h (Std.LawfulEqOrd.eq_of_compare hc)]

end

variable [Std.TransOrd κ]

/-- Puts `a` under `k`, instead of the value that was there. -/
def insert (t : Table κ α) (k : κ) (a : α) : Table κ α :=
  ⟨Entries.insert k a t.entries, Entries.increasing_insert k a t.increasing⟩

/-- The table of a list of entries; of several with one key the first counts. -/
def ofList (l : List (κ × α)) : Table κ α :=
  l.foldr (fun e t => t.insert e.1 e.2) empty

variable [Std.LawfulEqOrd κ]

@[ext] theorem ext_find? {t t' : Table κ α} (h : ∀ k, t.find? k = t'.find? k) : t = t' := by
  cases t with
  | mk l hl =>
    cases t' with
    | mk l' hl' =>
      have : l = l' := Entries.eq_of_find?_eq hl hl' h
      subst this
      rfl

theorem find?_insert (t : Table κ α) (k k' : κ) (a : α) :
    (t.insert k a).find? k' = if compare k' k = .eq then some a else t.find? k' :=
  Entries.find?_insert k k' a t.entries t.increasing

@[simp] theorem find?_insert_self (t : Table κ α) (k : κ) (a : α) :
    (t.insert k a).find? k = some a := by
  simp [find?_insert, Std.ReflOrd.compare_self]

theorem find?_insert_of_ne (t : Table κ α) {k k' : κ} (a : α) (h : k' ≠ k) :
    (t.insert k a).find? k' = t.find? k' := by
  rw [find?_insert, if_neg fun hc => h (Std.LawfulEqOrd.eq_of_compare hc)]

/-- Looking up in a table made of a list finds the list's first entry under the key. -/
theorem find?_ofList (l : List (κ × α)) (k : κ) : (ofList l).find? k = Entries.find? k l := by
  induction l with
  | nil => rfl
  | cons e rest ih =>
    show ((ofList rest).insert e.1 e.2).find? k = _
    rw [find?_insert, ih]
    rfl

@[simp] theorem ofList_entries (t : Table κ α) : ofList t.entries = t :=
  ext_find? fun k => find?_ofList t.entries k

end Table

end ChartBinding
