import ChartBinding.Json.Record

/-!
# Signals

Some properties of a chart are given literally or by a signal expression that the chart's runtime
evaluates.
-/

namespace ChartBinding

structure Signal where
  signal : String
deriving DecidableEq

namespace Signal

def recordShape : RecordShape := ⟨"SignalExpressionSpec", ["signal"]⟩

def read : Reader Signal :=
  recordShape.readPlain fun src => Signal.mk <$> src.required "signal" Json.readString

def write (s : Signal) : Json := Json.plainRecord [("signal", some (.str s.signal))]

end Signal

/-- A text, given literally or by a signal. -/
inductive TextOrSignal where
  | text (s : String)
  | signal (s : Signal)
deriving DecidableEq

namespace TextOrSignal

/-- A literal text is tried first. -/
def read : Reader TextOrSignal
  | .str s => .ok (.text s)
  | v =>
    match Signal.read v with
    | .ok s => .ok (.signal s)
    | .error _ => .error (.noAlternative "StringOrSignalSpec")

def write : TextOrSignal → Json
  | .text s => .str s
  | .signal s => s.write

end TextOrSignal

end ChartBinding
