import ChartBinding.Json.Number
import ChartBinding.Json.Reader

/-!
# Tables by number

An object stands for a table by number when the names of its members are numerals. A name holds
the numeral and nothing else, white space included. What is wrong with the number itself is told
with the place in the name up to which it is read, and comes before any text behind the number.
-/

namespace ChartBinding.Json

/-- Whether a text begins as a number does. -/
def startsNumber : List Char → Bool
  | [] => false
  | c :: _ => c.isDigit || c = '-'

/-- The identifier that a name spells. -/
def readIdName (name : String) : Except ReadError UInt32 := do
  let cs := name.toList
  if !startsNumber cs then .error .notNumeral
  let (v, rest) ← (scanNumber cs).mapError fun (fault, rest) =>
    .placed (.leaving cs rest) (.badNumber fault)
  let id ← (readId v).mapError (.placed (.leaving cs rest))
  if rest.isEmpty then return id else .error .notNumeral

/-- A member as an entry under an identifier; its name is read first. -/
def readIdMember {α : Type} (read : Reader α) (m : String × Json) :
    Except ReadError (UInt32 × α) := do
  let id ← readIdName m.1
  let a ← read m.2
  return (id, a)

/-- An object as a table by identifier, up to the first member that does not read. -/
def readIdTable {α : Type} (read : Reader α) : Reader (Table UInt32 α)
  | .obj ms => (ms.mapM (readIdMember read)).map Table.ofList
  | v => .error (.wrongKind v "a map")

end ChartBinding.Json
