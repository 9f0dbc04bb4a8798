import FeatureScript.Text.Literal

/-!
# FeatureScript.Step.Asserter

What a step does that others can see, one `Effect` after the other, and the `Asserter` that counts
the checks among them.
-/

namespace FeatureScript

open Text

/-- One visible act of a step: a check that passed or failed, or text written. -/
inductive Effect where
  | pass
  | fail (message : String)
  | write (text : String)
  deriving DecidableEq, Repr

namespace Effect

/-- A check of a condition. -/
def check (holds : Bool) (message : String) : Effect := if holds then .pass else .fail message

/-- A check that two values agree; a failure shows both. -/
def checkEq {α : Type} [BEq α] [Literal α] (expected actual : α) : Effect :=
  check (expected == actual) ("expected " ++ literal expected ++ ", got " ++ literal actual)

end Effect

/-- The checks of one step: how many passed, and the messages of those that failed. -/
structure Asserter where
  passes : Nat := 0
  failures : List String := []
  deriving DecidableEq, Repr, Inhabited

namespace Asserter

def perform (a : Asserter) : Effect → Asserter
  | .pass => { a with passes := a.passes + 1 }
  | .fail message => { a with failures := a.failures ++ [message] }
  | .write _ => a

/-- No check was made. -/
def isSilent (a : Asserter) : Bool := a.passes == 0 && a.failures.isEmpty

instance : Literal Asserter :=
  ⟨fun a => recordText "Asserter"
    [("passes", literal a.passes), ("failures", literal a.failures)]⟩

end Asserter
end FeatureScript
