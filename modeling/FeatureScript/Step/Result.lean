import FeatureScript.Keyword

/-!
# FeatureScript.Step.Result

The result of a step.
-/

namespace FeatureScript

/-- What went wrong in a failed step. -/
inductive FailureDetail where
  /-- The messages of the failed checks, in order. -/
  | assertions (messages : List String)
  /-- The handler gave up. -/
  | error (message : String)
  deriving DecidableEq, Repr

def FailureDetail.message : FailureDetail → String
  | .assertions messages => "\n".intercalate messages
  | .error message => message

inductive StepResult where
  | pass (output : String)
  | fail (output : String) (detail : FailureDetail)
  /-- No definition under `keyword` matches. -/
  | missing (keyword : Keyword)
  /-- A `Then` step without checks. -/
  | noAssertions (output : String)
  deriving DecidableEq, Repr

namespace StepResult

def label : StepResult → String
  | .pass _ => "passed"
  | .fail _ _ => "failed"
  | .missing _ => "missing"
  | .noAssertions _ => "no_assertions"

def output : StepResult → String
  | .pass output | .fail output _ | .noAssertions output => output
  | .missing _ => ""

def isFailure : StepResult → Bool
  | .fail _ _ => true
  | .pass _ | .missing _ | .noAssertions _ => false

end StepResult

/-- Stands between the output of a failed step and what went wrong. -/
def outputDivider : String := "\n---\n"

/-- The output of a failed step, if any, and what went wrong. -/
def renderFailure (output : String) (detail : FailureDetail) : String :=
  if output.isEmpty then detail.message else output ++ outputDivider ++ detail.message

end FeatureScript
