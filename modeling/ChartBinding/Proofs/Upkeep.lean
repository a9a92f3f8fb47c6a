/-!
# Entries that are made on demand

An entry is made by the first call that asks for it, changed by every call from there on, and
forgotten by some. What it comes to is a replay: of the calls since it was last forgotten, the first
that asked for it has made it, and it has the changes of that call and of all calls behind it.

Not everything makes an entry. A call that asks in vain is refused and has no part in the run, so
in a run every call that asks for the entry finds it or makes it (`Upkeep.Answered`).

One step of the machine is one step of the replay (`IsReplay.act`), and a run of the machine is the
replay of the run (`isReplay_foldl`).
-/

namespace ChartBinding

/-- How calls keep up an entry. -/
structure Upkeep (χ κ α : Type) where
  forgets : χ → Bool
  /-- What the entry is to be made of, by a call that asks for it. -/
  asks? : χ → Option κ
  make? : κ → Option α
  edit : χ → α → α

namespace Upkeep

variable {χ κ α : Type}

/-! ## The machine -/

/-- What a call makes of the entry. -/
def act (u : Upkeep χ κ α) (entry : Option α) (x : χ) : Option α :=
  if u.forgets x then none else (entry.or ((u.asks? x).bind u.make?)).map (u.edit x)

/-- A call that asks for the entry finds it or makes it. -/
def Answers (u : Upkeep χ κ α) (entry : Option α) (x : χ) : Prop :=
  ∀ k, u.asks? x = some k → entry ≠ none ∨ ∃ a, u.make? k = some a

/-- All calls of a run that ask for the entry find it or make it. -/
def Answered (u : Upkeep χ κ α) : Option α → List χ → Prop
  | _, [] => True
  | entry, x :: rest => u.Answers entry x ∧ Answered u (u.act entry x) rest

/-- The calls since the entry was last forgotten, with one call more. -/
def push (forgets : χ → Bool) (recent : List χ) (x : χ) : List χ :=
  if forgets x then [] else recent ++ [x]

/-- The calls of a run since the entry was last forgotten. -/
def sinceForgotten (forgets : χ → Bool) (xs : List χ) : List χ := xs.foldl (push forgets) []

/-- What an entry is to the calls since it was last forgotten. If there is none, no call has asked
for it. Otherwise the first call that asked for it has made it, and it has been changed from that
call on. -/
def IsReplay (u : Upkeep χ κ α) (recent : List χ) : Option α → Prop
  | none => ∀ x ∈ recent, u.asks? x = none
  | some a => ∃ before x later k fresh, recent = before ++ x :: later ∧
      (∀ y ∈ before, u.asks? y = none) ∧ u.asks? x = some k ∧ u.make? k = some fresh ∧
      a = (x :: later).foldl (fun a y => u.edit y a) fresh

/-! ## Single calls -/

variable {u : Upkeep χ κ α} {x : χ} {recent : List χ} {entry : Option α}

theorem act_of_forgets (forgets : u.forgets x = true) : u.act entry x = none :=
  if_pos forgets

theorem act_of_stays (stays : u.forgets x = false) :
    u.act entry x = (entry.or ((u.asks? x).bind u.make?)).map (u.edit x) :=
  if_neg (Bool.eq_false_iff.1 stays)

theorem act_of_silent (stays : u.forgets x = false) (silent : u.asks? x = none) :
    u.act entry x = entry.map (u.edit x) := by
  rw [act_of_stays stays, silent, Option.bind_none, Option.or_none]

theorem act_of_idle (stays : u.forgets x = false) (silent : u.asks? x = none)
    (same : u.edit x = id) : u.act entry x = entry := by
  rw [act_of_silent stays silent, same, Option.map_id, id]

/-- One call more is one step more of the replay. -/
theorem IsReplay.act (h : u.IsReplay recent entry) (answers : u.Answers entry x) :
    u.IsReplay (push u.forgets recent x) (u.act entry x) := by
  rw [push]
  cases forgets : u.forgets x with
  | true =>
      rw [act_of_forgets forgets]
      exact nofun
  | false =>
      rw [act_of_stays forgets]
      cases entry with
      | some a =>
          obtain ⟨before, first, later, k, fresh, rfl, silent, asks, makes, rfl⟩ := h
          refine ⟨before, first, later ++ [x], k, fresh, ?_, silent, asks, makes, ?_⟩
          · exact List.append_assoc before (first :: later) [x]
          · rw [← List.cons_append, List.foldl_append]
            rfl
      | none =>
          cases asks : u.asks? x with
          | none =>
              -- There is still no entry, and this call has not asked for it either.
              intro y hy
              rcases List.mem_append.1 hy with hy | hy
              · exact h y hy
              · exact List.mem_singleton.1 hy ▸ asks
          | some k =>
              -- The first call that asks for the entry makes it, and the replay begins with it.
              obtain ⟨fresh, makes⟩ := (answers k asks).resolve_left (absurd rfl)
              rw [Option.bind_some, makes]
              exact ⟨recent, x, [], k, fresh, rfl, h, asks, makes, rfl⟩

/-! ## Runs -/

/-- If everything makes an entry, no call asks in vain. -/
theorem answered_of_total (total : ∀ k, ∃ a, u.make? k = some a) (xs : List χ) :
    ∀ entry, u.Answered entry xs := by
  induction xs with
  | nil => exact fun _ => trivial
  | cons x xs ih => exact fun entry => ⟨fun k _ => .inr (total k), ih (u.act entry x)⟩

/-- **Entries are replays.** -/
theorem isReplay_foldl (xs : List χ) : ∀ {recent : List χ} {entry : Option α},
    u.IsReplay recent entry → u.Answered entry xs →
      u.IsReplay (xs.foldl (push u.forgets) recent) (xs.foldl u.act entry) := by
  induction xs with
  | nil => exact fun h _ => h
  | cons x xs ih => exact fun h answered => ih (h.act answered.1) answered.2

theorem isReplay_sinceForgotten {xs : List χ} (answered : u.Answered none xs) :
    u.IsReplay (sinceForgotten u.forgets xs) (xs.foldl u.act none) := by
  have start : u.IsReplay [] none := nofun
  exact isReplay_foldl xs start answered

/-- There is an entry exactly if a call has asked for it. -/
theorem IsReplay.isSome_iff (h : u.IsReplay recent entry) :
    entry.isSome ↔ ∃ x ∈ recent, (u.asks? x).isSome := by
  cases entry with
  | none =>
      constructor
      · exact nofun
      · rintro ⟨x, hx, asks⟩
        rw [h x hx] at asks
        cases asks
  | some a =>
      obtain ⟨before, x, later, k, fresh, rfl, -, asks, -, -⟩ := h
      refine ⟨fun _ => ⟨x, ?_, ?_⟩, fun _ => rfl⟩
      · exact List.mem_append_right before List.mem_cons_self
      · rw [asks]
        rfl

end Upkeep

end ChartBinding
