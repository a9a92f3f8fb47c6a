import ChartBinding.Json.ReadError

/-!
# Failures

A failure has a cause, which never changes, and a list of contexts, to which each caller that
passes the failure on may add one. The text of a failure is one line for its cause and one line for
each context, numbered in the order in which they were added.
-/

namespace ChartBinding

inductive Cause where
  /-- A binding would put a mark on a second pipeline. -/
  | pipelineMismatch (message : String)
  /-- The name of a derived field does not tell how it was derived. -/
  | patternDecode (message : String)
  /-- A mark is of a type that has no shape. -/
  | unknownMarkType (message : String)
  /-- The compiler refused a sketch. -/
  | compilation (message : String)
  /-- Something is absent that should be there. -/
  | internal (message : String)
  /-- A specification is not acceptable. -/
  | specification (message : String)
  /-- A JSON value does not read as the wanted type. -/
  | unreadable (error : ReadError)

namespace Cause

def message : Cause → String
  | pipelineMismatch m => m
  | patternDecode m => m
  | unknownMarkType m => m
  | compilation m => m
  | internal m => m
  | specification m => m
  | unreadable e => e.message

/-- What the text of a failure starts with. -/
def heading : Cause → String
  | pipelineMismatch _ => "Pipeline mismatch error"
  | patternDecode _ => "Derived field pattern error"
  | unknownMarkType _ => "Unknown mark type error"
  | compilation _ => "Vega-Lite compilation error"
  | internal _ => "Internal error"
  | specification _ => "Specification error"
  | unreadable _ => "Serde JSON Error"

/-- A second cause of the same kind and message. A reading error cannot be had twice: its second is
a specification error with its message. -/
def duplicate : Cause → Cause
  | unreadable e => specification e.message
  | c => c

end Cause

/-- A cause and the contexts in which it was passed on, the innermost first. -/
structure Failure where
  cause : Cause
  contexts : List String

namespace Failure

def ofCause (c : Cause) : Failure := ⟨c, []⟩

def withContext (f : Failure) (context : String) : Failure :=
  { f with contexts := f.contexts ++ [context] }

/-- A second failure with the same contexts. -/
def duplicate (f : Failure) : Failure := { f with cause := f.cause.duplicate }

def contextLines (start : Nat) : List String → String
  | [] => ""
  | c :: rest =>
    "    Context[" ++ toString start ++ "]: " ++ c ++ "\n" ++ contextLines (start + 1) rest

def text (f : Failure) : String :=
  f.cause.heading ++ ": " ++ f.cause.message ++ "\n" ++ contextLines 0 f.contexts

end Failure

abbrev Attempt (α : Type) := Except Failure α

namespace Attempt

variable {α : Type}

def withContext (r : Attempt α) (context : String) : Attempt α := r.mapError (·.withContext context)

/-- A value that should be there; that it is not is an internal failure. -/
def ofOption (a : Option α) (message : String) : Attempt α :=
  match a with
  | some a => .ok a
  | none => .error (.ofCause (.internal message))

/-- The reading of a value, as an attempt. -/
def ofRead (r : Except ReadError α) : Attempt α := r.mapError fun e => .ofCause (.unreadable e)

end Attempt

end ChartBinding
