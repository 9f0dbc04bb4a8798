import FeatureScript.Line
import FeatureScript.Step.Result

/-!
# FeatureScript.Report.Event

What a run tells: one event for each line of a script, and advice. A `Reporter` takes the events one
at a time into a state of its own.
-/

namespace FeatureScript

inductive Event where
  | feature (line : Line) (label : String)
  | scenario (line : Line) (label : String)
  /-- A line that is neither a heading nor a step. -/
  | text (line : Line)
  | step (line : Line) (result : StepResult)
  | advice (source message : String)
  deriving DecidableEq, Repr

namespace Event

def label : Event → String
  | .feature _ _ => "feature"
  | .scenario _ _ => "scenario"
  | .text _ => "text"
  | .step _ result => result.label
  | .advice _ _ => "advise"

/-- The line an event is about; advice is about none. -/
def line? : Event → Option Line
  | .feature line _ | .scenario line _ | .text line | .step line _ => some line
  | .advice _ _ => none

end Event

/-- Takes one event. -/
abbrev Reporter (ρ : Type) := ρ → Event → ρ

/-- Takes events in order. -/
def Reporter.reportAll {ρ : Type} (R : Reporter ρ) (r : ρ) (events : List Event) : ρ :=
  events.foldl R r

/-- The events of a run, in order. -/
structure Recording where
  events : List Event := []
  deriving DecidableEq, Repr, Inhabited

namespace Recording

def report : Reporter Recording := fun r e => ⟨r.events ++ [e]⟩

/-- Number and label of each line. -/
def labels (r : Recording) : List (Nat × String) :=
  r.events.filterMap fun e => e.line?.map fun line => (line.number, e.label)

/-- The messages of the advice. -/
def advice (r : Recording) : List String :=
  r.events.filterMap fun
    | .advice _ message => some message
    | _ => none

end Recording
end FeatureScript
