import ChartBinding.Json.ReadError
import ChartBinding.Table

/-!
# Reading simple values

A *reader* of a type takes a JSON value and gives a value of the type or the reason why there is
none. The readers of texts, flags, numbers, lists, tables and choices stand here; records are read
in `ChartBinding.Json.Record`.
-/

namespace ChartBinding

/-- A way to read values of one type from JSON. -/
abbrev Reader (α : Type) := Json → Except ReadError α

namespace Json

/-- Any value, as it is. -/
def readAny : Reader Json := .ok

def readString : Reader String
  | .str s => .ok s
  | v => .error (.wrongKind v "a string")

def readBool : Reader Bool
  | .bool b => .ok b
  | v => .error (.wrongKind v "a boolean")

/-- An identifier: an integer of 32 bits without sign. -/
def readId : Reader UInt32
  | .int i =>
    if 0 ≤ i ∧ i < UInt32.size then .ok (UInt32.ofNat i.toNat) else .error (.outOfRange i "u32")
  | v => .error (.wrongKind v "u32")

/-- A number, taken as a double. -/
def readDouble : Reader Double
  | .int i =>
    match Double.ofInt? i with
    | some x => .ok x
    | none => .error (.outOfRange i "f64")
  | .float x => .ok x
  | v => .error (.wrongKind v "f64")

def readOption {α : Type} (read : Reader α) : Reader (Option α)
  | .null => .ok none
  | v => (read v).map some

/-- The elements of a sequence, up to the first that does not read. -/
def readList {α : Type} (read : Reader α) : Reader (List α)
  | .arr xs => xs.mapM read
  | v => .error (.wrongKind v "a sequence")

/-- The members of an object, up to the first that does not read. -/
def readMembers {α : Type} (read : Reader α) (ms : List (String × Json)) :
    Except ReadError (Table String α) :=
  (ms.mapM fun m => (read m.2).map fun a => (m.1, a)).map Table.ofList

def readTable {α : Type} (read : Reader α) : Reader (Table String α)
  | .obj ms => readMembers read ms
  | v => .error (.wrongKind v "a map")

/-- Two values, as a sequence of both. -/
def readPair {α β : Type} (readFst : Reader α) (readSnd : Reader β) : Reader (α × β)
  | .arr [] => .error (.tooShort 0 "a tuple of size 2")
  | .arr [v] => do
    let _ ← readFst v
    .error (.tooShort 1 "a tuple of size 2")
  | .arr (v :: w :: rest) => do
    let a ← readFst v
    let b ← readSnd w
    if rest.isEmpty then .ok (a, b) else .error (.tooLong (rest.length + 2))
  | v => .error (.wrongKind v "a tuple of size 2")

/-- A choice of a closed list, by its name: a text, or an object whose only member is null and
called by that name. -/
def readChoice {α : Type} (choices : List α) (name : α → String) : Reader α := fun v =>
  let choose (s : String) : Except ReadError α :=
    match choices.find? fun a => name a = s with
    | some a => .ok a
    | none => .error (.unknownChoice s (choices.map name))
  match v with
  | .str s => choose s
  | .obj [(s, w)] => do
    let a ← choose s
    if w.isNull then .ok a else .error (.wrongKind w "unit")
  | .obj _ => .error .notOneChoice
  | v => .error (.wrongKind v "string or map")

/-! ## Writing simple values -/

def ofId (n : UInt32) : Json := .int n.toNat

/-- A table as an object, its members by increasing name. -/
def ofTable {α : Type} (write : α → Json) (t : Table String α) : Json :=
  .obj (t.entries.map fun e => (e.1, write e.2))

def ofOption {α : Type} (write : α → Json) : Option α → Json
  | some a => write a
  | none => .null

end Json

end ChartBinding
