import FeatureScript.Report.Event

/-!
# FeatureScript.Report.Tally

Counts of scenarios and of steps by their result.
-/

namespace FeatureScript

structure Tally where
  scenarios : Nat := 0
  passed : Nat := 0
  failed : Nat := 0
  missing : Nat := 0
  noAssertions : Nat := 0
  deriving DecidableEq, Repr, Inhabited

namespace Tally

def record (t : Tally) : StepResult → Tally
  | .pass _ => { t with passed := t.passed + 1 }
  | .fail _ _ => { t with failed := t.failed + 1 }
  | .missing _ => { t with missing := t.missing + 1 }
  | .noAssertions _ => { t with noAssertions := t.noAssertions + 1 }

def report : Reporter Tally := fun t e =>
  match e with
  | .scenario _ _ => { t with scenarios := t.scenarios + 1 }
  | .step _ result => t.record result
  | .feature _ _ | .text _ | .advice _ _ => t

def merge (t u : Tally) : Tally where
  scenarios := t.scenarios + u.scenarios
  passed := t.passed + u.passed
  failed := t.failed + u.failed
  missing := t.missing + u.missing
  noAssertions := t.noAssertions + u.noAssertions

def steps (t : Tally) : Nat := t.passed + t.failed + t.missing + t.noAssertions

def hasFailures (t : Tally) : Bool := decide (0 < t.failed)

def message (t : Tally) : String :=
  toString t.scenarios ++ " scenario(s), " ++ toString t.steps ++ " step(s): " ++
    toString t.passed ++ " passed, " ++ toString t.failed ++ " failed, " ++
    toString t.missing ++ " missing, " ++ toString t.noAssertions ++ " without assertions"

end Tally
end FeatureScript
