import ChartBinding.Json.Reader

/-!
# Aggregate operations

The closed list of operations that summarize the values of a field.
-/

namespace ChartBinding

/-- An operation that summarizes the values of a field. -/
inductive Aggregate where
  | values
  | count
  | valid
  | missing
  | distinct
  | sum
  | mean
  | average
  | variance
  | variancep
  | stdev
  | stdevp
  | median
  | q1
  | q3
  | modeskew
  | min
  | max
  | argmin
  | argmax
deriving DecidableEq

namespace Aggregate

def all : List Aggregate :=
  [values, count, valid, missing, distinct, sum, mean, average, variance, variancep, stdev, stdevp,
   median, q1, q3, modeskew, min, max, argmin, argmax]

def name : Aggregate → String
  | values => "values"
  | count => "count"
  | valid => "valid"
  | missing => "missing"
  | distinct => "distinct"
  | sum => "sum"
  | mean => "mean"
  | average => "average"
  | variance => "variance"
  | variancep => "variancep"
  | stdev => "stdev"
  | stdevp => "stdevp"
  | median => "median"
  | q1 => "q1"
  | q3 => "q3"
  | modeskew => "modeskew"
  | min => "min"
  | max => "max"
  | argmin => "argmin"
  | argmax => "argmax"

def ofName? (s : String) : Option Aggregate := all.find? fun op => op.name = s

def read : Reader Aggregate := Json.readChoice all name

def write (op : Aggregate) : Json := .str op.name

theorem mem_all (op : Aggregate) : op ∈ all := by cases op <;> decide

theorem ofName?_name (op : Aggregate) : ofName? op.name = some op := by cases op <;> decide

end Aggregate

end ChartBinding
