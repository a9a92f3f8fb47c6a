import ChartBinding.Action

/-!
# Scripts of actions

A script is a list of actions, batches and failures, which is run as one batch. A batch in it is
run in the same way, and a failure ends all batches that are open.
-/

namespace ChartBinding

inductive Script.Step where
  | dispatch (a : Action)
  | batch (steps : List Script.Step)
  | fail (f : Failure)

/-- The steps that are run as one batch. -/
abbrev Script := List Script.Step

namespace Script

def record (a : Action) : Task Unit Action Unit := Task.emit [a]

mutual

def Step.task : Step → Task Unit Action Unit
  | .dispatch a => record a
  | .batch steps => ChartBinding.batch record (stepsTask steps)
  | .fail f => Task.fail f

def stepsTask : List Step → Task Unit Action Unit
  | [] => pure ()
  | s :: rest => do
    s.task
    stepsTask rest

end

/-- Runs a script as one batch: the actions that were dispatched, and the result. -/
def run (script : Script) : List Action × Attempt Unit :=
  let o := (batch record (stepsTask script)).run ()
  (o.events, o.result)

end Script

end ChartBinding
