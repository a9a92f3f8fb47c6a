/-!
# Finite double-precision numbers

A `Double` is a 64-bit pattern of the binary interchange format, a sign bit, eleven bits of exponent
and 52 bits of fraction, that is neither an infinity nor a NaN. Nothing here computes with rounding
arithmetic. Every double is a whole number of *units*, a unit being `2 ^ (-1074)`, the least
positive double; so equality, order and wholeness are questions about integers (`Double.units`), and
the one place where a value is rounded is `Double.nearest?`, which works on an exact quotient of
naturals.
-/

namespace ChartBinding

/-- A finite double-precision number, by its bit pattern. -/
structure Double where
  bits : UInt64
  finite : bits.toNat >>> 52 % 2048 ≠ 2047
deriving DecidableEq

namespace Double

/-! ## The three fields -/

/-- The sign bit: set on negative numbers and on the negative zero. -/
def isNegative (x : Double) : Bool := 1 <<< 63 ≤ x.bits.toNat

/-- The biased exponent, between 0 and 2046. -/
def exponentField (x : Double) : Nat := x.bits.toNat >>> 52 % 2048

/-- The 52 low bits. -/
def fractionField (x : Double) : Nat := x.bits.toNat % 1 <<< 52

/-- The whole number `m` such that the magnitude is `m * 2 ^ x.shift` units. -/
def significand (x : Double) : Nat :=
  if x.exponentField = 0 then x.fractionField else 1 <<< 52 + x.fractionField

/-- How far the significand stands above the last place of the format. -/
def shift (x : Double) : Nat := x.exponentField - 1

/-- The value, counted in units of `2 ^ (-1074)`. -/
def units (x : Double) : Int :=
  let magnitude : Int := (x.significand <<< x.shift : Nat)
  if x.isNegative then -magnitude else magnitude

/-- The number of units in one. -/
def unitsPerOne : Int := (1 <<< 1074 : Nat)

/-! ## Comparisons -/

/-- Numeric equality: both zeros are equal. -/
def same (x y : Double) : Bool := x.units == y.units

/-- A whole number between `lo` and `hi`. -/
def isWholeBetween (x : Double) (lo hi : Int) : Bool :=
  x.units % unitsPerOne == 0
    && decide (lo * unitsPerOne ≤ x.units) && decide (x.units ≤ hi * unitsPerOne)

/-! ## Rounding to the format -/

/-- The least pattern of an infinite magnitude. -/
def infiniteMagnitude : Nat := 2047 <<< 52

/-- The double of a sign and a magnitude pattern. -/
def ofMagnitude (negative : Bool) (bits : Nat) (h : bits < infiniteMagnitude) : Double where
  bits := UInt64.ofNat (if negative then 1 <<< 63 + bits else bits)
  finite := by
    simp only [infiniteMagnitude] at h
    cases negative <;> simp only [UInt64.toNat_ofNat', Bool.false_eq_true, if_true, if_false] <;>
      omega

def zero (negative : Bool) : Double := ofMagnitude negative 0 (by decide)

instance : Inhabited Double := ⟨zero false⟩

/-- The quotient `num / den` rounded to a whole number, a half going to the even neighbour. -/
def roundDivEven (num den : Nat) : Nat :=
  let q := num / den
  let r := num % den
  if den < 2 * r || (2 * r == den && q % 2 == 1) then q + 1 else q

/-- The place of the last significand bit of `num / den`, as a power of two: the quotient lies
between `2 ^ 52` and `2 ^ 53` in that place, unless it is so small that the place is the
format's last. -/
def placeOf (num den : Nat) : Int :=
  let e : Int := max ((Nat.log2 num : Int) - (Nat.log2 den : Int) - 53) (-1074)
  if 1 <<< 53 ≤ num <<< (-e).toNat / den <<< e.toNat then e + 1 else e

/-- The double nearest to `num / den` with the given sign, a half going to the even neighbour, if it
is finite. The quotient is rounded in its last significand place; a carry out of the significand
moves into the exponent field by itself. -/
def nearest? (negative : Bool) (num den : Nat) : Option Double :=
  if num = 0 then some (zero negative)
  else
    let e := placeOf num den
    let q := roundDivEven (num <<< (-e).toNat) (den <<< e.toNat)
    let bits := (e + 1074).toNat <<< 52 + q
    if h : bits < infiniteMagnitude then some (ofMagnitude negative bits h) else none

/-- The double nearest to an integer, if it is finite. -/
def ofInt? (i : Int) : Option Double := nearest? (i < 0) i.natAbs 1

/-- The double nearest to `mantissa * 10 ^ exponent`, if it is finite. A magnitude far outside the
format's range is settled by its number of digits alone, so a long exponent costs nothing. -/
def ofDecimal? (negative : Bool) (mantissa : Nat) (exponent : Int) : Option Double :=
  let places : Int := (Nat.log2 mantissa / 3 + 1 : Nat) + exponent
  if mantissa = 0 then some (zero negative)
  else if exponent > 400 then none
  else if places < -400 then some (zero negative)
  else nearest? negative (mantissa * Nat.pow 10 exponent.toNat) (Nat.pow 10 (-exponent).toNat)

end Double

end ChartBinding
