import ChartBinding.Number.Shortest

/-!
# How numbers are written

A double is written with the digits of its shortest decimal. Where the point goes is settled by one
record, `Layout.json`: magnitudes with a leading exponent from -5 to 15 are written positionally and
always show a point, all others with one digit before the point and an explicit sign of the
exponent.
-/

namespace ChartBinding

/-- The choices in writing a number that its digits do not settle. -/
structure Layout where
  /-- The least leading exponent that is written positionally. -/
  positionalFrom : Int
  /-- The least leading exponent, from there upwards, that is no longer written positionally. -/
  positionalBelow : Int
  /-- What ends a positional number without fraction. -/
  wholeMark : String
  /-- What stands between the digits and a non-negative exponent. -/
  upMark : String
  /-- What stands between the digits and the magnitude of a negative exponent. -/
  downMark : String

namespace Layout

/-- Numbers in JSON text: `517.0`, `0.00001`, `1e-6`, `1.5e+300`. -/
def json : Layout := ⟨-5, 16, ".0", "e+", "e-"⟩

/-- A list without its trailing zero digits. -/
def dropTrailingZeros (ds : List Char) : List Char :=
  (ds.reverse.dropWhile (· == '0')).reverse

/-- A fraction, with its point unless it is empty. -/
def fraction (ds : List Char) : String :=
  if ds.isEmpty then "" else "." ++ String.ofList ds

/-- The text of `0.d₁d₂… * 10 ^ (lead + 1)`. -/
def digits (l : Layout) (ds : List Char) (lead : Int) : String :=
  if l.positionalFrom ≤ lead && lead < l.positionalBelow then
    if 0 ≤ lead then
      let whole := lead.toNat + 1
      let tail := ds.drop whole
      String.ofList (ds.take whole ++ List.replicate (whole - ds.length) '0')
        ++ (if tail.isEmpty then l.wholeMark else fraction tail)
    else
      "0" ++ fraction (List.replicate (-lead - 1).toNat '0' ++ ds)
  else
    String.ofList (ds.take 1) ++ fraction (ds.drop 1)
      ++ (if 0 ≤ lead then l.upMark else l.downMark) ++ toString lead.natAbs

def decimal (l : Layout) (d : Decimal) : String :=
  let ds := Decimal.digitsOf d.digits
  l.digits (dropTrailingZeros ds) (d.exponent + ds.length - 1)

def double (l : Layout) (x : Double) : String :=
  (if x.isNegative then "-" else "")
    ++ (if x.significand = 0 then "0" ++ l.wholeMark else l.decimal (Decimal.shortest x))

end Layout

def Double.text (x : Double) : String := Layout.json.double x

end ChartBinding
