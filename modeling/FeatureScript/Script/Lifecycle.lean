import FeatureScript.Script.Executor

/-!
# FeatureScript.Script.Lifecycle

The scenario that is open, if any, and how many were opened and closed.

Opening closes the scenario before it. A scenario whose set-up fails is not open; one whose
tear-down fails is closed all the same.
-/

namespace FeatureScript

inductive LifecycleError where
  | setUp (cause : HookError)
  | tearDown (cause : HookError)
  deriving DecidableEq, Repr

namespace LifecycleError

def cause : LifecycleError → HookError
  | .setUp e | .tearDown e => e

def message : LifecycleError → String
  | .setUp e => "scenario set-up failed: " ++ e.message
  | .tearDown e => "scenario tear-down failed: " ++ e.message

end LifecycleError

structure Lifecycle where
  session : Option Session := none
  opened : Nat := 0
  closed : Nat := 0
  deriving DecidableEq, Repr, Inhabited

namespace Lifecycle

variable {σ : Type}

def isOpen (l : Lifecycle) : Bool := l.session.isSome

/-- Tears the open scenario down. Without one, nothing happens. -/
def leave (E : Executor σ) (l : Lifecycle) (s : σ) : Except LifecycleError Unit × Lifecycle × σ :=
  match l.session with
  | none => (.ok (), l, s)
  | some _ =>
    let l := { l with session := none, closed := l.closed + 1 }
    match E.tearDown s with
    | (.ok (), s) => (.ok (), l, s)
    | (.error e, s) => (.error (.tearDown e), l, s)

/-- Closes the open scenario, sets a new one up and opens it with a fresh session. -/
def enter (E : Executor σ) (l : Lifecycle) (s : σ) : Except LifecycleError Unit × Lifecycle × σ :=
  match l.leave E s with
  | (.error e, l, s) => (.error e, l, s)
  | (.ok (), l, s) =>
    match E.setUp s with
    | (.ok (), s) => (.ok (), { l with session := some .fresh, opened := l.opened + 1 }, s)
    | (.error e, s) => (.error (.setUp e), l, s)

/-- Resolves a keyword in the open scenario. -/
def resolve? (l : Lifecycle) (k : Keyword) : Option (Option Keyword × Lifecycle) :=
  l.session.map fun session =>
    let (resolved, session) := session.resolve k
    (resolved, { l with session := some session })

end Lifecycle
end FeatureScript
