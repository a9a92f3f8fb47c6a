import ChartBinding.Json.Reader

/-!
# Reading and writing records

A record type is read from an object whose members are its declared fields. Two laws settle which
error is reported when several fields are at fault: the misread member that stands first in the
document, and only if every member reads, the first declared field that is missing.

A *gathering* (`Gather`) is a reading of several fields with both kinds of fault kept apart, so it
can be put together field by field, in the order of declaration, and `Gather.finish` decides at the
end (`finish_seq`). The result of reading one member is a `Slot`.

A *plain* record has no place for undeclared members: they are ignored, and the record may also be
given as a sequence of its fields in the order of declaration. An *open* record keeps undeclared
members, and only objects read as such.
-/

namespace ChartBinding

/-! ## Gathering fields -/

/-- A fault with the position in the document where it was met. -/
abbrev Fault := Nat × ReadError

/-- The fault that was met first. -/
def Fault.earlier : Option Fault → Option Fault → Option Fault
  | none, g => g
  | f, none => f
  | some f, some g => if f.1 ≤ g.1 then some f else some g

/-- A reading of some fields: the first misread one, and the value or the first missing one. -/
structure Gather (α : Type) where
  misread : Option Fault
  value : Except ReadError α

namespace Gather

variable {α β : Type}

/-- Both readings, the second one's field declared later. -/
def seq (f : Gather (α → β)) (x : Gather α) : Gather β :=
  ⟨Fault.earlier f.misread x.misread, do return (← f.value) (← x.value)⟩

instance : Applicative Gather where
  pure a := ⟨none, .ok a⟩
  seq f x := seq f (x ())

/-- The value, unless a field was misread or is missing. -/
def finish (g : Gather α) : Except ReadError α :=
  match g.misread with
  | some f => .error f.2
  | none => g.value

theorem finish_eq_ok_iff {g : Gather α} {a : α} :
    g.finish = .ok a ↔ g.misread = none ∧ g.value = .ok a := by
  cases h : g.misread <;> simp [finish, h]

theorem earlier_eq_none_iff {f g : Option Fault} :
    Fault.earlier f g = none ↔ f = none ∧ g = none := by
  cases f <;> cases g <;> simp [Fault.earlier]
  split <;> simp

@[simp] theorem finish_pure (a : α) : (pure a : Gather α).finish = .ok a := rfl

/-- Two readings together succeed exactly if both do. -/
theorem finish_seq {f : Gather (α → β)} {x : Gather α} {b : β} :
    (f <*> x).finish = .ok b ↔
      ∃ h a, f.finish = .ok h ∧ x.finish = .ok a ∧ b = h a := by
  show (seq f x).finish = .ok b ↔ _
  simp only [finish_eq_ok_iff, seq, earlier_eq_none_iff]
  cases hf : f.value <;> cases hx : x.value <;>
    simp [bind, Except.bind, pure, Except.pure, and_assoc, eq_comm]

end Gather

/-! ## Slots -/

/-- One declared field as found in a value: absent, or read at a position. -/
abbrev Slot (α : Type) := Option (Nat × Except ReadError α)

namespace Slot

variable {α : Type}

/-- A field that must be there; `lack` is reported if it is not. -/
def required (lack : ReadError) : Slot α → Gather α
  | none => ⟨none, .error lack⟩
  | some (_, .ok a) => ⟨none, .ok a⟩
  | some (i, .error e) => ⟨some (i, e), .error e⟩

def withDefault (default : α) : Slot α → Gather α
  | none => pure default
  | some (_, .ok a) => pure a
  | some (i, .error e) => ⟨some (i, e), .error e⟩

end Slot

/-! ## Where fields are found -/

/-- The name of a record type in messages, and its fields in the order of declaration. -/
structure RecordShape where
  title : String
  fields : List String

namespace RecordShape

def want (shape : RecordShape) : String := "struct " ++ shape.title

/-- The wanted kind of a record given by position. -/
def wantByPosition (shape : RecordShape) : String :=
  shape.want ++ " with " ++ toString shape.fields.length
    ++ (if shape.fields.length = 1 then " element" else " elements")

end RecordShape

/-- What a record is read from. -/
inductive Source where
  | members (ms : List (String × Json))
  /-- A sequence of the fields in the order of declaration. -/
  | elems (shape : RecordShape) (xs : List Json)

/-- The first member called `name`, with its position; positions count from `start`. -/
def Json.locate (name : String) (start : Nat) : List (String × Json) → Option (Nat × Json)
  | [] => none
  | (k, v) :: rest => if k = name then some (start, v) else Json.locate name (start + 1) rest

namespace Source

variable {α : Type}

def find? (src : Source) (name : String) : Option (Nat × Json) :=
  match src with
  | .members ms => Json.locate name 0 ms
  | .elems shape xs =>
    let i := shape.fields.idxOf name
    xs[i]?.map fun v => (i, v)

def lack (src : Source) (name : String) : ReadError :=
  match src with
  | .members _ => .missing name
  | .elems shape _ => .tooShort (shape.fields.idxOf name) shape.wantByPosition

/-- A field, read if it is there. -/
def slot (src : Source) (name : String) (read : Reader α) : Slot α :=
  (src.find? name).map fun f => (f.1, read f.2)

def required (src : Source) (name : String) (read : Reader α) : Gather α :=
  (src.slot name read).required (src.lack name)

def withDefault (src : Source) (name : String) (default : α) (read : Reader α) : Gather α :=
  (src.slot name read).withDefault default

/-- A field that may be null; in an object it may also be absent. -/
def optional (src : Source) (name : String) (read : Reader α) : Gather (Option α) :=
  match src with
  | .members _ => src.withDefault name none (Json.readOption read)
  | .elems .. => src.required name (Json.readOption read)

/-! ### Fields of objects

What each kind of field comes to in an object, its position put aside. -/

theorem map_locate (name : String) (start : Nat) (ms : List (String × Json)) :
    (Json.locate name start ms).map (·.2) = Json.lookup name ms := by
  induction ms generalizing start with
  | nil => rfl
  | cons m rest ih => by_cases h : m.1 = name <;> simp [Json.locate, Json.lookup, h, ih]

/-- A required field is there and reads. -/
theorem finish_required {ms : List (String × Json)} {name : String} {read : Reader α} {a : α} :
    ((members ms).required name read).finish = .ok a ↔
      ∃ v, Json.lookup name ms = some v ∧ read v = .ok a := by
  rw [← map_locate name 0 ms]
  simp only [required, slot, find?]
  cases Json.locate name 0 ms with
  | none => simp [Slot.required, Gather.finish]
  | some f => cases h : read f.2 <;> simp [Slot.required, Gather.finish, h]

/-- A field with a default is absent, or it is there and reads. -/
theorem finish_withDefault {ms : List (String × Json)} {name : String} {d : α} {read : Reader α}
    {a : α} :
    ((members ms).withDefault name d read).finish = .ok a ↔
      (Json.lookup name ms = none ∧ a = d) ∨
        ∃ v, Json.lookup name ms = some v ∧ read v = .ok a := by
  rw [← map_locate name 0 ms]
  simp only [withDefault, slot, find?]
  cases Json.locate name 0 ms with
  | none => simp [Slot.withDefault, eq_comm]
  | some f =>
    cases h : read f.2 with
    | error e => simp [Slot.withDefault, Gather.finish, h]
    | ok b => simp [Slot.withDefault, h]

/-- An optional field is absent or null, or it is there and reads. -/
theorem finish_optional {ms : List (String × Json)} {name : String} {read : Reader α}
    {a : Option α} :
    ((members ms).optional name read).finish = .ok a ↔
      (Json.lookup name ms = none ∧ a = none) ∨
        ∃ v, Json.lookup name ms = some v ∧ Json.readOption read v = .ok a :=
  finish_withDefault

end Source

/-! ## The two kinds of records -/

namespace RecordShape

variable {α : Type}

def readPlain (shape : RecordShape) (fields : Source → Gather α) : Reader α
  | .obj ms => (fields (.members ms)).finish
  | .arr xs => do
    let a ← (fields (.elems shape xs)).finish
    if shape.fields.length < xs.length then .error (.tooLong xs.length) else return a
  | v => .error (.wrongKind v shape.want)

/-- The members of an object that are not declared fields. -/
def undeclared (shape : RecordShape) (ms : List (String × Json)) : Table String Json :=
  Table.ofList (ms.filter fun m => !shape.fields.contains m.1)

/-- Reads an open record; `fields` is given the object and its undeclared members. -/
def readOpen (shape : RecordShape) (fields : Source → Table String Json → Gather α) : Reader α
  | .obj ms => (fields (.members ms) (shape.undeclared ms)).finish
  | v => .error (.wrongKind v shape.want)

end RecordShape

/-! ## Writing records -/

namespace Json

/-- An object of the fields that have a value. -/
def ofFields (fields : List (String × Option Json)) : List (String × Json) :=
  fields.filterMap fun f => f.2.map fun v => (f.1, v)

def plainRecord (fields : List (String × Option Json)) : Json := .obj (ofFields fields)

/-- The written form of an open record: the declared fields, then the kept members. -/
def openRecord (fields : List (String × Option Json)) (extra : Table String Json) : Json :=
  .obj (ofFields fields ++ extra.entries)

/-- The value of a declared field in a written record. -/
theorem lookup_ofFields (name : String) (fields : List (String × Option Json))
    (distinct : (fields.map (·.1)).Nodup) :
    lookup name (ofFields fields) = (fields.lookup name).join := by
  induction fields with
  | nil => rfl
  | cons f rest ih =>
    obtain ⟨k, v⟩ := f
    have hd := List.nodup_cons.1 distinct
    by_cases hk : name = k
    · subst hk
      cases v with
      | some v => simp [ofFields]
      | none =>
        have : rest.lookup name = none := by
          rw [List.lookup_eq_none_iff]
          intro p hp
          simpa using fun h : name = p.1 => hd.1 (List.mem_map.2 ⟨p, hp, h.symm⟩)
        have hr := ih hd.2
        rw [this] at hr
        simpa [ofFields] using hr
    · have hk' : k ≠ name := Ne.symm hk
      have hl : ((k, v) :: rest).lookup name = rest.lookup name := by
        simp [List.lookup_cons, beq_eq_false_iff_ne.2 hk]
      rw [hl, ← ih hd.2]
      cases v <;> simp [ofFields, hk']

/-- A list that is left out when it is empty. -/
def ofListUnlessEmpty {α : Type} (write : α → Json) : List α → Option Json
  | [] => none
  | xs => some (.arr (xs.map write))

end Json

end ChartBinding
