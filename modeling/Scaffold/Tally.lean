import Scaffold.Plan

/-!
A command that works on several files carries out one operation a file, whatever became of the
others, and reports on each at once. The tally counts the operations and those that failed; the command
fails at its end if any of them did.
-/

namespace Scaffold

/-- How many operations of a command there were, and how many of them failed. -/
structure Tally where
  attempted : Nat := 0
  failed : Nat := 0
  deriving DecidableEq

namespace Tally

/-- Whether the failure is a mistake of the user that the message itself says how to mend. -/
def isExpected : Cause → Bool
  | .fileMissing _ | .fileExists _ => true
  | _ => false

/-- Carries out one operation on the file at the path and reports on it. -/
def record {α : Type} (tally : Tally) (p : Path) (operation : Job α) (success : α → String) :
    Plan Tally := do
  match ← operation.run with
  | .ok value =>
    Plan.say (success value)
    return { tally with attempted := tally.attempted + 1 }
  | .error f =>
    if isExpected f.cause then
      Plan.log .routes .warning s!"Skipping {p}: {f.headline}"
    else
      Plan.log .routes .error s!"Operation on {p} failed: {f.report}"
    Plan.complain s!"Error: {p}: {f.summary}"
    return { attempted := tally.attempted + 1, failed := tally.failed + 1 }

/-- Fails if some operation did. -/
def finish (tally : Tally) : Job Unit := do
  if 0 < tally.failed then
    Job.fail (.operationsFailed tally.failed tally.attempted)

end Tally

end Scaffold
