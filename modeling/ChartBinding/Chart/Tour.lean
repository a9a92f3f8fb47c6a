import ChartBinding.Chart.Walk
import ChartBinding.Failure

/-!
# Tours

A tour is a walk that notes down every station and may be broken off after a set number of them.
-/

namespace ChartBinding

namespace Station

/-- What kind of part a station shows. -/
def kind : Station → String
  | chart _ => "chart"
  | data .. => "data"
  | scale .. => "scale"
  | axis .. => "axis"
  | legend .. => "legend"
  | group .. => "group"
  | mark .. => "mark"

end Station

/-- The visitor that notes down every station, and fails at the one after `limit` of them. -/
def tourist (limit : Option Nat) : Visitor (ExceptT Failure (StateM (List Station))) :=
  Visitor.ofStation fun s => do
    let seen ← get
    if limit = some seen.length then
      throw (.ofCause (.specification ("stopped at " ++ s.kind)))
    else set (seen ++ [s])

/-- The stations seen on a walk through a chart, and how the walk ended. -/
def Chart.tour (c : Chart) (limit : Option Nat) : List Station × Attempt Unit :=
  let (result, seen) := ((c.walk (tourist limit)).run).run []
  (seen, result)

end ChartBinding
