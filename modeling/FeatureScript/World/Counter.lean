import FeatureScript.Script.Executor

/-!
# FeatureScript.World.Counter

A world with a counter, whose handlers and hooks are given as data: each handler is a list of
actions, and each hook has a list of failures for its calls. The world keeps a log of its calls.
-/

namespace FeatureScript
namespace World

open Text

/-- One action of a handler; `index` is the index of a capture. -/
inductive Action where
  | perform (effect : Effect)
  /-- Checks a capture against a text. -/
  | checkCapture (index : Nat) (expected : String)
  | writeCapture (index : Nat)
  | writeCaptures
  /-- Reads a capture and writes its value. -/
  | writeValue (type : ValueType) (index : Nat)
  | setCounter (index : Nat)
  /-- Adds a capture to the counter, modulo `2 ^ 64`. -/
  | addCounter (index : Nat)
  | checkCounter (index : Nat)
  | writeCounter
  | raise (error : StepError)
  | panic (payload : Payload)

/-- The integers of the counter. -/
def counterType : IntegerType := .signed 64

/-- The integer of 64 bits that is congruent to `n`. -/
def wrap (n : Int) : Int := n.bmod (Nat.pow 2 64)

structure Counter where
  value : Int := 0
  /-- What was called, in order. -/
  calls : List String := []
  /-- The number of calls of each hook. -/
  begun : Nat := 0
  ended : Nat := 0
  deriving DecidableEq, Repr, Inhabited

namespace Counter

def log (w : Counter) (call : String) : Counter := { w with calls := w.calls ++ [call] }

end Counter

namespace Action

/-- What an action does in a world, with the captures of its step. -/
def run (captures : List String) (w : Counter) : Action → Performance Counter
  | perform effect => .ofEffects w [effect]
  | checkCapture index expected =>
    .ofExcept w (captureAt captures index) fun actual => .ofEffects w [.checkEq expected actual]
  | writeCapture index =>
    .ofExcept w (captureAt captures index) fun text => .ofEffects w [.write text]
  | writeCaptures => .ofEffects w [.write (literal captures)]
  | writeValue type index =>
    .ofExcept w (readCapture captures type.read index) fun text => .ofEffects w [.write text]
  | setCounter index =>
    .ofExcept w (readCapture captures counterType.read index) fun n =>
      { world := { w with value := n } }
  | addCounter index =>
    .ofExcept w (readCapture captures counterType.read index) fun n =>
      { world := { w with value := wrap (w.value + n) } }
  | checkCounter index =>
    .ofExcept w (readCapture captures counterType.read index) fun n =>
      .ofEffects w [.checkEq n w.value]
  | writeCounter => .ofEffects w [.write (literal w.value)]
  | raise error => { world := w, ending := .raised error }
  | panic payload => { world := w, ending := .panicked payload }

/-- Runs actions up to the first that does not return. -/
def runAll (captures : List String) (w : Counter) : List Action → Performance Counter
  | [] => { world := w }
  | a :: rest => (a.run captures w).andThen fun w => runAll captures w rest

/-- The handler with these actions, the `number`-th of its world. -/
def handler (number : Nat) (actions : List Action) : Handler Counter := fun captures w =>
  runAll captures (w.log ("step " ++ toString number)) actions

end Action

structure StepSpec where
  keyword : Keyword
  pattern : String
  actions : List Action

/-- A provider of counter worlds. The `n`-th call of a hook fails if its list has a message at `n`.
-/
structure CounterSpec where
  steps : List StepSpec := []
  setUp : List (Option String) := []
  tearDown : List (Option String) := []
  /-- Set-up starts the counter at zero again. -/
  reset : Bool := false

namespace CounterSpec

def outcome (failures : List (Option String)) (call : Nat) : Except HookError Unit :=
  match failures[call]? with
  | some (some message) => .error ⟨message⟩
  | _ => .ok ()

def hooks (spec : CounterSpec) : Hooks Counter where
  setUp w :=
    let w := if spec.reset then { w with value := 0 } else w
    (outcome spec.setUp w.begun, { w.log "begin" with begun := w.begun + 1 })
  tearDown w := (outcome spec.tearDown w.ended, { w.log "end" with ended := w.ended + 1 })

/-- The definitions, numbered from zero. -/
def definitions (spec : CounterSpec) : List (Keyword × String × Handler Counter) :=
  spec.steps.zipIdx.map fun (s, number) => (s.keyword, s.pattern, Action.handler number s.actions)

def build (spec : CounterSpec) : Except RegistryError (Provider Counter) :=
  match Registry.empty.registerAll spec.definitions with
  | .ok registry => .ok { registry, hooks := spec.hooks }
  | .error e => .error e

end CounterSpec
end World
end FeatureScript
