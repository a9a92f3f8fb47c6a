import ChartBinding.Number.Double

/-!
# Reading numerals

A numeral is an optional sign, digits with at most one point among them and at least one digit, and
an optional exponent. `Numeral.ofChars?` reads the whole of a text; `Numeral.double?` is the double
nearest to the exact decimal value.
-/

namespace ChartBinding

/-- A decimal numeral: the number `± mantissa * 10 ^ exponent`. -/
structure Numeral where
  negative : Bool
  mantissa : Nat
  exponent : Int
deriving DecidableEq

namespace Numeral

def digitValue (c : Char) : Nat := c.toNat - '0'.toNat

def natOf (ds : List Char) : Nat := ds.foldl (fun n d => 10 * n + digitValue d) 0

/-- The leading ASCII digits of a text, and the rest. -/
def spanDigits (cs : List Char) : List Char × List Char :=
  (cs.takeWhile Char.isDigit, cs.dropWhile Char.isDigit)

/-- An optional sign, and whether it is a minus. -/
def readSign : List Char → Bool × List Char
  | '-' :: cs => (true, cs)
  | '+' :: cs => (false, cs)
  | cs => (false, cs)

/-- An exponent at the end of a numeral: nothing, or a mark, an optional sign and digits. -/
def readExponent? : List Char → Option Int
  | [] => some 0
  | c :: cs =>
    if c = 'e' || c = 'E' then
      let (negative, ds) := readSign cs
      if ds.isEmpty || !ds.all Char.isDigit then none
      else some (if negative then -(natOf ds : Int) else natOf ds)
    else none

/-- Reads the digits, the point and the exponent of a numeral without sign. -/
def ofUnsigned? (negative : Bool) (cs : List Char) : Option Numeral :=
  let (whole, rest) := spanDigits cs
  let (fraction, rest) : List Char × List Char :=
    match rest with
    | '.' :: rest => spanDigits rest
    | _ => ([], rest)
  if whole.isEmpty && fraction.isEmpty then none
  else (readExponent? rest).map fun e =>
    ⟨negative, natOf (whole ++ fraction), e - fraction.length⟩

/-- Reads a numeral that is the whole text. -/
def ofChars? (cs : List Char) : Option Numeral :=
  let (negative, rest) := readSign cs
  ofUnsigned? negative rest

def double? (n : Numeral) : Option Double := Double.ofDecimal? n.negative n.mantissa n.exponent

end Numeral

end ChartBinding
