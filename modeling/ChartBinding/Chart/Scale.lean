import ChartBinding.Chart.Signal

/-!
# Scales

A scale maps data values to visual values: its domain says which data, its range which visual
values. Both may be given in several forms, and a value is taken in the first form that it fits.
A list that holds nothing but one text has the form of a signal given by position, so it is taken
as a signal and not as a list.
-/

namespace ChartBinding

structure FieldReference where
  data : String
  field : Json
  extra : Table String Json

namespace FieldReference

def recordShape : RecordShape := ⟨"ScaleDataReferenceSpec", ["data", "field"]⟩

def read : Reader FieldReference :=
  recordShape.readOpen fun src extra =>
    FieldReference.mk
      <$> src.required "data" Json.readString
      <*> src.required "field" Json.readAny
      <*> pure extra

def write (r : FieldReference) : Json :=
  Json.openRecord [("data", some (.str r.data)), ("field", some r.field)] r.extra

end FieldReference

/-- Several fields, whose values together make up a domain. -/
structure FieldReferences where
  fields : List FieldReference
  extra : Table String Json

namespace FieldReferences

def recordShape : RecordShape := ⟨"ScaleDataReferencesSpec", ["fields"]⟩

def read : Reader FieldReferences :=
  recordShape.readOpen fun src extra =>
    FieldReferences.mk
      <$> src.required "fields" (Json.readList FieldReference.read)
      <*> pure extra

def write (r : FieldReferences) : Json :=
  Json.openRecord [("fields", some (.arr (r.fields.map FieldReference.write)))] r.extra

end FieldReferences

namespace Scale

/-- The data that a scale maps from. -/
inductive Domain where
  | field (r : FieldReference)
  | fields (r : FieldReferences)
  | signal (s : Signal)
  | list (xs : List Json)
  | value (v : Json)

/-- The first form that fits: a field, several fields, a signal, a list, and else any value. -/
def Domain.ofJson (v : Json) : Domain :=
  match FieldReference.read v, FieldReferences.read v, Signal.read v, v with
  | .ok r, _, _, _ => .field r
  | _, .ok r, _, _ => .fields r
  | _, _, .ok s, _ => .signal s
  | _, _, _, .arr xs => .list xs
  | _, _, _, v => .value v

def Domain.read : Reader Domain := fun v => .ok (Domain.ofJson v)

def Domain.write : Domain → Json
  | .field r => r.write
  | .fields r => r.write
  | .signal s => s.write
  | .list xs => .arr xs
  | .value v => v

/-- The visual values that a scale maps to. -/
inductive Range where
  | signal (s : Signal)
  | list (xs : List Json)
  | value (v : Json)

/-- The first form that fits: a signal, a list, and else any value. -/
def Range.ofJson (v : Json) : Range :=
  match Signal.read v, v with
  | .ok s, _ => .signal s
  | _, .arr xs => .list xs
  | _, v => .value v

def Range.read : Reader Range := fun v => .ok (Range.ofJson v)

def Range.write : Range → Json
  | .signal s => s.write
  | .list xs => .arr xs
  | .value v => v

/-- Whether a range is the list of zero and the given extent, in either order. Such a range was
sized from the plotting surface and not chosen by a guide. -/
def Range.spans (extent : Double) : Range → Bool
  | .list [a, b] =>
    match a.number?, b.number? with
    | some a, some b =>
      a.same (Double.zero false) && b.same extent || a.same extent && b.same (Double.zero false)
    | _, _ => false
  | _ => false

end Scale

structure Scale where
  name : String
  kind : Option String
  domain : Option Scale.Domain
  range : Option Scale.Range
  extra : Table String Json

namespace Scale

def recordShape : RecordShape := ⟨"ScaleSpec", ["name", "type", "domain", "range"]⟩

def read : Reader Scale :=
  recordShape.readOpen fun src extra =>
    Scale.mk
      <$> src.required "name" Json.readString
      <*> src.optional "type" Json.readString
      <*> src.optional "domain" Domain.read
      <*> src.optional "range" Range.read
      <*> pure extra

def write (s : Scale) : Json :=
  Json.openRecord
    [("name", some (.str s.name)), ("type", s.kind.map .str),
     ("domain", s.domain.map Domain.write), ("range", s.range.map Range.write)]
    s.extra

/-- Whether the scale's range spans the width or the height of a plotting surface. -/
def isCellSized (width height : Double) (s : Scale) : Bool :=
  match s.range with
  | some r => r.spans width || r.spans height
  | none => false

end Scale

end ChartBinding
