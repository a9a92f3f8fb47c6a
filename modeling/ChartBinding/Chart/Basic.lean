import ChartBinding.Chart.Mark

/-!
# Charts

A chart in the low-level grammar: data, scales, guides and marks, spelled out.
-/

namespace ChartBinding

structure Chart where
  schema : String
  data : List DataSource
  marks : List Mark
  scales : List Scale
  axes : List Axis
  legends : List Legend
  extra : Table String Json

namespace Chart

/-- The grammar that a chart follows if it names none. -/
def defaultSchema : String := "https://vega.github.io/schema/vega/v5.json"

/-- The chart without any content, not even the name of its grammar. -/
def blank : Chart := ⟨"", [], [], [], [], [], ∅⟩

instance : Inhabited Chart := ⟨blank⟩

def recordShape : RecordShape :=
  ⟨"ChartSpec", ["$schema", "data", "marks", "scales", "axes", "legends"]⟩

def read : Reader Chart :=
  recordShape.readOpen fun src extra =>
    Chart.mk
      <$> src.withDefault "$schema" defaultSchema Json.readString
      <*> src.withDefault "data" [] (Json.readList DataSource.read)
      <*> src.withDefault "marks" [] (Json.readList Mark.read)
      <*> src.withDefault "scales" [] (Json.readList Scale.read)
      <*> src.withDefault "axes" [] (Json.readList Axis.read)
      <*> src.withDefault "legends" [] (Json.readList Legend.read)
      <*> pure extra

def write (c : Chart) : Json :=
  Json.openRecord
    [("$schema", some (.str c.schema)), ("data", Json.ofListUnlessEmpty DataSource.write c.data),
     ("marks", Json.ofListUnlessEmpty Mark.write c.marks),
     ("scales", Json.ofListUnlessEmpty Scale.write c.scales),
     ("axes", Json.ofListUnlessEmpty Axis.write c.axes),
     ("legends", Json.ofListUnlessEmpty Legend.write c.legends)]
    c.extra

end Chart

end ChartBinding
