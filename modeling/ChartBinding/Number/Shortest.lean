import ChartBinding.Number.Double

/-!
# The shortest decimal of a double

Among the decimals that read back as a given positive double, the ones with the fewest digits are
singled out, and of these the one nearest to the double; a tie goes to the even last digit.

The decimals that read back are those of an interval around the value, half a last place to each
side (a quarter below a power of two, where the doubles below lie twice as close), ends included
when the significand is even. All quantities are naturals over one denominator. On the grid of
`n`-digit decimals it is enough to look at the two neighbours of the value: if any point of the
grid lies in the interval, one of these two does.
-/

namespace ChartBinding

/-- The positive number `digits * 10 ^ exponent`. -/
structure Decimal where
  digits : Nat
  exponent : Int
deriving DecidableEq

namespace Decimal

/-- The decimal digits of a natural number, most significant first. -/
def digitsOf (n : Nat) : List Char := Nat.toDigits 10 n

/-- The exponent of the first digit of `num / den`: the greatest `e` such that
`10 ^ e ≤ num / den`. -/
def leadingExponent (num den : Nat) : Int :=
  if den ≤ num then ((digitsOf (num / den)).length : Int) - 1
  else -((digitsOf ((den - 1) / num)).length : Int)

/-- The interval of numbers that read back as one double, over a common denominator. -/
structure Interval where
  low : Nat
  value : Nat
  high : Nat
  den : Nat
  closed : Bool

def Interval.ofDouble (x : Double) : Interval :=
  let m := x.significand
  let below := if m = 1 <<< 52 ∧ 1 < x.exponentField then 1 else 2
  let scale := 1 <<< x.shift
  { low := (4 * m - below) * scale
    value := 4 * m * scale
    high := (4 * m + 2) * scale
    den := 1 <<< 1076
    closed := m % 2 = 0 }

def Interval.holds (i : Interval) (c up down : Nat) : Bool :=
  let p := c * up * i.den
  if i.closed then i.low * down ≤ p && p ≤ i.high * down
  else i.low * down < p && p < i.high * down

/-- The decimal with `n` digits that lies in the interval and is nearest to its value, if there is
one; `lead` is the exponent of the value's first digit. -/
def candidate? (i : Interval) (lead : Int) (n : Nat) : Option Decimal :=
  let e := lead - n + 1
  let up := Nat.pow 10 e.toNat
  let down := Nat.pow 10 (-e).toNat
  let c := i.value * down / (i.den * up)
  let doubled := 2 * i.value * down
  let middle := (2 * c + 1) * up * i.den
  match i.holds c up down, i.holds (c + 1) up down with
  | true, false => some ⟨c, e⟩
  | false, true => some ⟨c + 1, e⟩
  | true, true =>
    if doubled < middle || (doubled == middle && c % 2 == 0) then some ⟨c, e⟩
    else some ⟨c + 1, e⟩
  | false, false => none

/-- The shortest decimal that reads back as the given positive double. Seventeen digits
always suffice. -/
def shortest (x : Double) : Decimal :=
  let i := Interval.ofDouble x
  let lead := leadingExponent i.value i.den
  ((List.range 17).findSome? fun n => candidate? i lead (n + 1)).getD ⟨0, 0⟩

end Decimal

end ChartBinding
