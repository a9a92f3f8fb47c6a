import ChartBinding.Json.Basic
import ChartBinding.Number.Numeral

/-!
# Reading the numbers of JSON

A number is an optional minus, digits of which a zero stands alone, an optional fraction and an
optional exponent. One without fraction and exponent that fits a signed or unsigned 64-bit word is
an integer; every other number is the nearest double, and one beyond the greatest double is
refused. A refusal tells what text was left when the fault was found.
-/

namespace ChartBinding

/-- What is wrong with the text of a number. -/
inductive NumberFault where
  /-- The text ends where a digit is wanted. -/
  | unfinished
  /-- A character stands where the number has no place for it. -/
  | malformed
  /-- The number is beyond the greatest double. -/
  | excessive
deriving DecidableEq

/-- The wording of a fault. -/
def NumberFault.message : NumberFault → String
  | .unfinished => "EOF while parsing a value"
  | .malformed => "invalid number"
  | .excessive => "number out of range"

namespace Json

namespace Number

/-- A fault and the text that was left when it was found. -/
abbrev Fault := NumberFault × List Char

/-! ## Values -/

/-- Whether an integer fits a signed or an unsigned 64-bit word. -/
def fitsWord (i : Int) : Bool := -0x8000000000000000 ≤ i ∧ i < UInt64.size

/-- The value of a numeral; `plain` tells that it has neither fraction nor exponent. -/
def ofNumeral? (plain : Bool) (n : Numeral) : Option Json :=
  let i : Int := if n.negative then -(n.mantissa : Int) else n.mantissa
  if plain && fitsWord i && !(n.negative && n.mantissa == 0) then some (.int i)
  else n.double?.map .float

/-! ## Parts

Each part is read off the head of a text and given with the text behind it. -/

/-- An optional minus, and whether there is one. -/
def scanMinus : List Char → Bool × List Char
  | '-' :: cs => (true, cs)
  | cs => (false, cs)

/-- Digits, of which there is at least one. -/
def scanDigits : List Char → Except Fault (List Char × List Char)
  | [] => .error (.unfinished, [])
  | c :: cs => if c.isDigit then .ok (Numeral.spanDigits (c :: cs)) else .error (.malformed, cs)

/-- The digits before the point; none follows a leading zero. -/
def scanWhole (cs : List Char) : Except Fault (List Char × List Char) := do
  match ← scanDigits cs with
  | ('0' :: _ :: _, _) => .error (.malformed, cs.drop 2)
  | (ds, rest) => return (ds, rest)

/-- The digits behind the point, if there is a point. -/
def scanFraction : List Char → Except Fault (Option (List Char) × List Char)
  | '.' :: cs => (scanDigits cs).map fun (ds, rest) => (some ds, rest)
  | cs => .ok (none, cs)

/-- The greatest exponent that is read to its end. -/
def exponentLimit : Nat := 0x7fffffff

/-- What follows the first digit at which a numeral exceeds a limit; `n` is its value so far. -/
def dropExceeding (limit n : Nat) : List Char → List Char
  | [] => []
  | c :: cs =>
    let n := 10 * n + Numeral.digitValue c
    if limit < n then cs else dropExceeding limit n cs

/-- The exponent, if there is one. A positive exponent above the limit makes every number but zero
excessive, and that is known as soon as the limit is passed. -/
def scanExponent (mantissa : Nat) : List Char → Except Fault (Option Int × List Char)
  | [] => .ok (none, [])
  | c :: cs =>
    if c = 'e' || c = 'E' then do
      let (negative, cs) := Numeral.readSign cs
      let (ds, rest) ← scanDigits cs
      let n := Numeral.natOf ds
      if exponentLimit < n && !negative && mantissa != 0 then
        .error (.excessive, dropExceeding exponentLimit 0 cs)
      return (some (if negative then -(n : Int) else n), rest)
    else .ok (none, c :: cs)

end Number

/-! ## Numbers -/

/-- Reads the number at the head of a text, and gives it with the text behind it. -/
def scanNumber (cs : List Char) : Except Number.Fault (Json × List Char) := do
  let (negative, cs) := Number.scanMinus cs
  let (whole, cs) ← Number.scanWhole cs
  let (fraction, cs) ← Number.scanFraction cs
  let ds := fraction.getD []
  let mantissa := Numeral.natOf (whole ++ ds)
  let (exponent, cs) ← Number.scanExponent mantissa cs
  let plain := fraction.isNone && exponent.isNone
  match Number.ofNumeral? plain ⟨negative, mantissa, exponent.getD 0 - ds.length⟩ with
  | some v => return (v, cs)
  | none => .error (.excessive, cs)

end Json

end ChartBinding
