import FeatureScript.Step.Context

/-!
# FeatureScript.Step.Handler

Step handlers. A handler gets the captures of the matched pattern and the world of its scenario;
what it does is a `Performance`: effects in order, the world it leaves, and the way it ends. The
world and the effects stay when it ends with an error or a panic.
-/

namespace FeatureScript

/-- How a handler ends. -/
inductive Ending where
  | returned
  | raised (error : StepError)
  | panicked (payload : Payload)
  deriving DecidableEq, Repr

/-- The error of a handler that did not return. -/
def Ending.error? : Ending → Option StepError
  | .returned => none
  | .raised e => some e
  | .panicked payload => some (.panicked payload.message)

structure Performance (W : Type) where
  effects : List Effect := []
  world : W
  ending : Ending := .returned

namespace Performance

variable {W : Type}

/-- One performance after another; the second takes place only if the first returned. -/
def andThen (p : Performance W) (next : W → Performance W) : Performance W :=
  match p.ending with
  | .returned =>
    let q := next p.world
    { q with effects := p.effects ++ q.effects }
  | _ => p

/-- The effects and nothing else. -/
def ofEffects (world : W) (effects : List Effect) : Performance W := { effects, world }

/-- Goes on with a value, or ends with the error in its place. -/
def ofExcept {α : Type} (world : W) (value : Except StepError α) (next : α → Performance W) :
    Performance W :=
  match value with
  | .ok a => next a
  | .error e => { world, ending := .raised e }

end Performance

/-- A step handler over worlds of type `W`. -/
abbrev Handler (W : Type) := (captures : List String) → W → Performance W

end FeatureScript
