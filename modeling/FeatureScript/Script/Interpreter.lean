import FeatureScript.Report.Event
import FeatureScript.Script.Lifecycle

/-!
# FeatureScript.Script.Interpreter

Running a script line by line.

A `Feature` heading closes the open scenario; a `Scenario` heading closes it and opens the next one;
the end of the script closes it. Steps are executed under their resolved keyword; a conjunction that
continues no step stops the run. Each line is reported after what it caused. Steps outside of any
scenario are resolved in a session of their own, which starts afresh at each heading.

An error stops the run where it is: no hook and no step runs after it.
-/

namespace FeatureScript

/-- Why a script cannot be run to its end. -/
inductive InterpretError where
  /-- The line is a conjunction with no primary keyword to continue. -/
  | danglingConjunction (keyword : Keyword) (line : Line)
  /-- A hook failed at a line; at the end of the script, the line is the last one. -/
  | lifecycle (source : String) (number : Nat) (cause : LifecycleError)
  deriving DecidableEq, Repr

def InterpretError.message : InterpretError → String
  | .danglingConjunction keyword line =>
    line.location ++ ": `" ++ keyword.name ++
      "` has no preceding Given, When or Then in this scenario: " ++ line.text
  | .lifecycle source number cause => source ++ ":" ++ toString number ++ ": " ++ cause.message

/-- What an interpreter remembers between lines: the open scenario, and the session of the steps
outside of any. -/
structure Interpreter where
  lifecycle : Lifecycle := {}
  unscoped : Session := {}
  deriving DecidableEq, Repr, Inhabited

namespace Interpreter

def fresh : Interpreter := {}

/-- The keyword a step is executed under. -/
def resolve (i : Interpreter) (k : Keyword) : Option Keyword × Interpreter :=
  match i.lifecycle.resolve? k with
  | some (resolved, lifecycle) => (resolved, { i with lifecycle })
  | none =>
    let (resolved, unscoped) := i.unscoped.resolve k
    (resolved, { i with unscoped })

end Interpreter

/-- An interpreter at work, with the states of its executor and of its reporter. -/
structure Stage (σ ρ : Type) where
  interpreter : Interpreter := .fresh
  executor : σ
  reporter : ρ

namespace Stage

variable {σ ρ : Type}

/-- Closes the open scenario on account of a line. -/
def leave (E : Executor σ) (s : Stage σ ρ) (source : String) (number : Nat) :
    Except InterpretError Unit × Stage σ ρ :=
  let (outcome, lifecycle, executor) := s.interpreter.lifecycle.leave E s.executor
  (outcome.mapError (.lifecycle source number),
    { s with interpreter := { s.interpreter with lifecycle }, executor })

/-- Opens a scenario on account of a line. -/
def enter (E : Executor σ) (s : Stage σ ρ) (source : String) (number : Nat) :
    Except InterpretError Unit × Stage σ ρ :=
  let (outcome, lifecycle, executor) := s.interpreter.lifecycle.enter E s.executor
  (outcome.mapError (.lifecycle source number),
    { s with interpreter := { s.interpreter with lifecycle }, executor })

/-- Reports a heading; the steps after it start afresh. -/
def heading (R : Reporter ρ) (s : Stage σ ρ) (e : Event) : Stage σ ρ :=
  { s with
    interpreter := { s.interpreter with unscoped := .fresh }
    reporter := R s.reporter e }

/-- Takes one line. -/
def accept (E : Executor σ) (R : Reporter ρ) (s : Stage σ ρ) (line : Line) :
    Except InterpretError Unit × Stage σ ρ :=
  match line.token with
  | .feature label =>
    match s.leave E line.source line.number with
    | (.ok (), s) => (.ok (), s.heading R (.feature line label))
    | failed => failed
  | .scenario label =>
    match s.enter E line.source line.number with
    | (.ok (), s) => (.ok (), s.heading R (.scenario line label))
    | failed => failed
  | .step keyword text =>
    match s.interpreter.resolve keyword with
    | (none, interpreter) =>
      (.error (.danglingConjunction keyword line), { s with interpreter })
    | (some resolved, interpreter) =>
      let (result, executor) := E.execute s.executor resolved text
      (.ok (), { interpreter, executor, reporter := R s.reporter (.step line result) })
  | .text => (.ok (), { s with reporter := R s.reporter (.text line) })

/-- Takes lines up to the first error. -/
def acceptAll (E : Executor σ) (R : Reporter ρ) (s : Stage σ ρ) :
    List Line → Except InterpretError Unit × Stage σ ρ
  | [] => (.ok (), s)
  | line :: rest =>
    match s.accept E R line with
    | (.ok (), s) => s.acceptAll E R rest
    | failed => failed

/-- Ends a script whose last line has the number given. -/
def finish (E : Executor σ) (s : Stage σ ρ) (source : String) (lastLine : Nat) :
    Except InterpretError Unit × Stage σ ρ :=
  s.leave E source lastLine

/-- Runs a whole script. -/
def interpret (E : Executor σ) (R : Reporter ρ) (s : Stage σ ρ) (text source : String) :
    Except InterpretError Unit × Stage σ ρ :=
  let lines := scriptLines text source
  match s.acceptAll E R lines with
  | (.ok (), s) => s.finish E source lines.length
  | failed => failed

end Stage

/-- Runs a script with a fresh interpreter. -/
def interpret {σ ρ : Type} (E : Executor σ) (R : Reporter ρ) (executor : σ) (reporter : ρ)
    (text source : String) : Except InterpretError Unit × Stage σ ρ :=
  Stage.interpret E R { executor, reporter } text source

end FeatureScript
