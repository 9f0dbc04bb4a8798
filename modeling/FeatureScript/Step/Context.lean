import FeatureScript.Step.Asserter
import FeatureScript.Step.Error
import FeatureScript.Step.Reading

/-!
# FeatureScript.Step.Context

What a step handler works with: the captures of its pattern, the checks made so far and the text
written so far.
-/

namespace FeatureScript

open Text

/-- The text at an index of the captures. -/
def captureAt (captures : List String) (index : Nat) : Except StepError String :=
  match captures[index]? with
  | some text => .ok text
  | none => .error (.argument index
      ("pattern captured only " ++ toString captures.length ++ " group(s)"))

/-- The value of the capture at an index. -/
def readCapture {α : Type} (captures : List String) (read : String → Except ReadError α)
    (index : Nat) : Except StepError α :=
  match captureAt captures index with
  | .error e => .error e
  | .ok raw =>
    match read raw with
    | .ok value => .ok value
    | .error e =>
      .error (.argument index ("cannot parse " ++ literal raw ++ ": " ++ e.message))

structure StepContext where
  captures : List String
  asserter : Asserter := {}
  output : String := ""
  deriving DecidableEq, Repr

namespace StepContext

def perform (c : StepContext) : Effect → StepContext
  | .write text => { c with output := c.output ++ text }
  | effect => { c with asserter := c.asserter.perform effect }

/-- The context after a list of effects. -/
def performAll (c : StepContext) (effects : List Effect) : StepContext :=
  effects.foldl perform c

instance : Literal StepContext :=
  ⟨fun c => recordText "StepContext"
    [("captures", literal c.captures), ("asserter", literal c.asserter),
      ("output", literal c.output)]⟩

end StepContext
end FeatureScript
