import ChartBinding.Sketch.Basic
import ChartBinding.Text.Pattern

/-!
# Fields offered for binding

A data set offers fields by name. A field that an earlier step derived is flagged, and its name
tells how: `<operation>_<field>` for an aggregate, `bin_<field>_start`, `_mid` or `_end` for the
ends and the middle of a bin. Bound to a channel, such a field is shown by its source field and the
operation, so the name has to be taken apart (`Field.decode`). Names are single lines: a source
field with a line feed is refused.
-/

namespace ChartBinding

/-! ## Channels of properties -/

/-- The channel that shows a property of a mark. The properties of an extent share the channel of
its axis, both paints share the color, and any other property is a channel of its own. -/
def Channel.ofProperty (property : String) : Channel :=
  if property ∈ ["x", "x+", "x2", "width"] then "x"
  else if property ∈ ["y", "y+", "y2", "height"] then "y"
  else if property ∈ ["fill", "stroke"] then "color"
  else property

/-! ## Fields -/

structure Field where
  name : String
  aggregate : Bool
  bin : Bool
  measure : Measure
deriving DecidableEq

namespace Field

def recordShape : RecordShape := ⟨"FieldDescriptor", ["name", "aggregate", "bin", "mtype"]⟩

def read : Reader Field :=
  recordShape.readPlain fun src =>
    Field.mk
      <$> src.required "name" Json.readString
      <*> src.withDefault "aggregate" false Json.readBool
      <*> src.withDefault "bin" false Json.readBool
      <*> src.required "mtype" Measure.read

def write (f : Field) : Json :=
  Json.plainRecord
    [("name", some (.str f.name)), ("aggregate", some (.bool f.aggregate)),
     ("bin", some (.bool f.bin)), ("mtype", some f.measure.write)]

def plain (name : String) (measure : Measure) : Field := ⟨name, false, false, measure⟩

def aggregated (name : String) (measure : Measure) : Field := ⟨name, true, false, measure⟩

def binned (name : String) (measure : Measure) : Field := ⟨name, false, true, measure⟩

/-! ## Taking names apart -/

inductive Derivation where
  | aggregate (op : Aggregate)
  | bin
deriving DecidableEq

structure Decoded where
  derivation : Option Derivation
  source : String
deriving DecidableEq

/-- The names of aggregated fields: an operation, an underscore and the source. -/
def aggregatePattern : Text.Pattern :=
  [.oneOf (Aggregate.all.map fun op => op.name.toList), .oneOf [['_']], .line]

def binSuffixes : List String := ["_start", "_mid", "_end"]

/-- The names of binned fields: the source between the prefix and one of the suffixes. -/
def binPattern : Text.Pattern :=
  [.oneOf ["bin".toList], .oneOf [['_']], .line, .oneOf (binSuffixes.map String.toList)]

/-- The derivation and the source of a field. The aggregate flag counts before the bin flag, and a
field with neither is its own source, whatever its name. -/
def decode (f : Field) : Attempt Decoded :=
  if f.aggregate then
    match aggregatePattern.pieces? f.name.toList with
    | some [op, _, source] =>
      match Aggregate.ofName? (String.ofList op) with
      | some op => .ok ⟨some (.aggregate op), String.ofList source⟩
      | none =>
        .error (.ofCause (.patternDecode
          ("Unknown aggregate operation in " ++ Text.quoted f.name)))
    | _ =>
      .error (.ofCause (.patternDecode
        ("Aggregated field " ++ Text.quoted f.name ++ " is not of the form <op>_<field>")))
  else if f.bin then
    match binPattern.pieces? f.name.toList with
    | some [_, _, source, _] => .ok ⟨some .bin, String.ofList source⟩
    | _ =>
      .error (.ofCause (.patternDecode
        ("Binned field " ++ Text.quoted f.name
          ++ " is not of the form bin_<field>_<start|mid|end>")))
  else .ok ⟨none, f.name⟩

def Decoded.channelDef (d : Decoded) (measure : Measure) : ChannelDef :=
  match d.derivation with
  | some (.aggregate op) => ⟨measure, d.source, some op, none⟩
  | some .bin => ⟨measure, d.source, none, some true⟩
  | none => ⟨measure, d.source, none, none⟩

/-- What a channel shows when the field is bound to it. -/
def channelDef (f : Field) : Attempt ChannelDef := do
  return (← f.decode).channelDef f.measure

end Field

end ChartBinding
