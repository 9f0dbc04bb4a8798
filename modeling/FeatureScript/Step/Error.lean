import FeatureScript.Text.Literal

/-!
# FeatureScript.Step.Error

How a step breaks off: with an error, or with a panic whose payload is put into words.
-/

namespace FeatureScript

open Text

/-- Why a step gave up. -/
inductive StepError where
  | failed (message : String)
  /-- The capture at `index` cannot be used. -/
  | argument (index : Nat) (message : String)
  | panicked (message : String)
  deriving DecidableEq, Repr

def StepError.message : StepError → String
  | .failed message => message
  | .argument index message => "capture " ++ toString index ++ ": " ++ message
  | .panicked message => "step panicked: " ++ message

/-- What a panic carries. -/
inductive Payload where
  | text (s : String)
  | number (n : Int)
  | flag (b : Bool)
  /-- A value that cannot be put into words. -/
  | unknown
  deriving DecidableEq, Repr

def Payload.message : Payload → String
  | .text s => s
  | .number n => literal n
  | .flag b => literal b
  | .unknown => "opaque panic payload"

end FeatureScript
