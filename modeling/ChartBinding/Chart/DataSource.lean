import ChartBinding.Chart.Signal

/-!
# Data sources

A data source of a chart holds values of its own, loads them from an address, or derives them from
another source, and may transform them.
-/

namespace ChartBinding

structure DataSource where
  name : String
  source : Option String
  url : Option TextOrSignal
  format : Option Json
  values : Option Json
  transform : List Json
  extra : Table String Json

namespace DataSource

def recordShape : RecordShape :=
  ⟨"DataSpec", ["name", "source", "url", "format", "values", "transform"]⟩

def read : Reader DataSource :=
  recordShape.readOpen fun src extra =>
    DataSource.mk
      <$> src.required "name" Json.readString
      <*> src.optional "source" Json.readString
      <*> src.optional "url" TextOrSignal.read
      <*> src.optional "format" Json.readAny
      <*> src.optional "values" Json.readAny
      <*> src.withDefault "transform" [] (Json.readList Json.readAny)
      <*> pure extra

def write (d : DataSource) : Json :=
  Json.openRecord
    [("name", some (.str d.name)), ("source", d.source.map .str),
     ("url", d.url.map TextOrSignal.write), ("format", d.format), ("values", d.values),
     ("transform", Json.ofListUnlessEmpty id d.transform)]
    d.extra

end DataSource

end ChartBinding
