import ChartBinding.Number.Layout

/-!
# JSON values

Specifications, rows and action payloads are JSON values. Integers and other numbers are kept
apart, so `1` and `1.0` are different values. The members of an object keep the order of the
document: the fields of a data set are those of its first row, in its order. That order does not
count when two values are compared (`Json.same`).
-/

namespace ChartBinding

inductive Json where
  | null
  | bool (b : Bool)
  | int (i : Int)
  | float (x : Double)
  | str (s : String)
  | arr (elems : List Json)
  | obj (members : List (String × Json))
deriving Inhabited

namespace Json

/-! ## Members -/

/-- The value of the first member called `name`. -/
def lookup (name : String) : List (String × Json) → Option Json
  | [] => none
  | (k, v) :: rest => if k = name then some v else lookup name rest

/-- The value of a member, if the value is an object that has it. -/
def get? (name : String) : Json → Option Json
  | .obj members => lookup name members
  | _ => none

/-- The double that a JSON number stands for. -/
def number? : Json → Option Double
  | .int i => Double.ofInt? i
  | .float x => some x
  | _ => none

def isNull : Json → Bool
  | .null => true
  | _ => false

@[simp] theorem lookup_nil (name : String) : lookup name [] = none := rfl

@[simp] theorem lookup_cons (name k : String) (v : Json) (rest : List (String × Json)) :
    lookup name ((k, v) :: rest) = if k = name then some v else lookup name rest := rfl

theorem lookup_append (name : String) (l l' : List (String × Json)) :
    lookup name (l ++ l') = (lookup name l).or (lookup name l') := by
  induction l with
  | nil => rfl
  | cons e rest ih => by_cases h : e.1 = name <;> simp [lookup, h, ih]

/-! ## Comparison -/

mutual

/-- Equality of values, in which numbers count by value within their kind and members by name. -/
def same : Json → Json → Bool
  | .null, .null => true
  | .bool a, .bool b => a == b
  | .int i, .int j => i == j
  | .float x, .float y => x.same y
  | .str s, .str t => s == t
  | .arr xs, .arr ys => sameElems xs ys
  | .obj ms, .obj ns => ms.length == ns.length && sameMembers ms ns
  | _, _ => false

def sameElems : List Json → List Json → Bool
  | [], [] => true
  | x :: xs, y :: ys => x.same y && sameElems xs ys
  | _, _ => false

/-- Every member has a counterpart of the same value. -/
def sameMembers : List (String × Json) → List (String × Json) → Bool
  | [], _ => true
  | (k, v) :: rest, ns =>
    match lookup k ns with
    | some w => v.same w && sameMembers rest ns
    | none => false

end

end Json

end ChartBinding
