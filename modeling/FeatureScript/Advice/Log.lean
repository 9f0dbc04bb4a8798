import FeatureScript.Advice.Basic
import FeatureScript.Report.Tally

/-!
# FeatureScript.Advice.Log

A reporter in front of another one. It passes every event on as it is, and notes what there is to
advise: missing steps, steps without assertions, and whether there was a scenario at all.
-/

namespace FeatureScript

/-- A step that was missing: its line, the keyword it was looked up under, and its text. -/
structure MissingNote where
  lineNumber : Nat
  keyword : Keyword
  text : String
  deriving DecidableEq, Repr

structure AdviceLog (ρ : Type) where
  inner : ρ
  tally : Tally := {}
  missing : List MissingNote := []
  /-- The lines of steps without assertions. -/
  unasserted : List Nat := []
  deriving DecidableEq, Repr

namespace AdviceLog

variable {ρ : Type}

/-- Steps that continue or open a `Then` block are the ones that should assert something. -/
def shouldAssert (line : Line) : Bool :=
  match line.token with
  | .step .then _ | .step .and _ | .step .but _ => true
  | _ => false

/-- The notes on one event. -/
def note (log : AdviceLog ρ) : Event → AdviceLog ρ
  | .step line (.missing keyword) =>
    match line.token with
    | .step _ text => { log with missing := log.missing ++ [⟨line.number, keyword, text⟩] }
    | _ => log
  | .step line (.noAssertions _) =>
    if shouldAssert line then { log with unasserted := log.unasserted ++ [line.number] } else log
  | _ => log

def report (R : Reporter ρ) : Reporter (AdviceLog ρ) := fun log e =>
  { log.note e with inner := R log.inner e, tally := log.tally.report e }

/-- The advice on the events so far: first that there is no scenario, then the missing steps, then
the steps without assertions. -/
def advice (log : AdviceLog ρ) : List Advice :=
  (if log.tally.scenarios = 0 then [.noScenarios] else []) ++
    log.missing.map (fun n => .missingStep n.lineNumber n.keyword n.text) ++
    log.unasserted.map .noAssertions

end AdviceLog
end FeatureScript
