import FeatureScript.Step.Dispatch

/-!
# FeatureScript.Script.Executor

What a script drives: an `Executor` opens and closes scenarios and executes steps, over a state of
its own.

* `Executor.null` has no definitions: every step is missing.
* `Provider.executor` runs the definitions of a registry in a world, which the hooks see too.
* `LiveExecutor` packs an executor with its state, so that executors over different worlds can be
  kept together.
-/

namespace FeatureScript

structure HookError where
  message : String
  deriving DecidableEq, Repr, Inhabited

/-- Set-up, tear-down and the execution of one step under a primary keyword. Hooks may fail, and the
state they leave stays. -/
structure Executor (σ : Type) where
  setUp : σ → Except HookError Unit × σ
  tearDown : σ → Except HookError Unit × σ
  execute : σ → Keyword → String → StepResult × σ

/-- The executor without definitions. -/
def Executor.null : Executor Unit where
  setUp s := (.ok (), s)
  tearDown s := (.ok (), s)
  execute s keyword _ := (.missing keyword, s)

/-- What a world does when a scenario opens and when it closes. -/
structure Hooks (W : Type) where
  setUp : W → Except HookError Unit × W := fun w => (.ok (), w)
  tearDown : W → Except HookError Unit × W := fun w => (.ok (), w)

/-- Definitions and hooks over one type of worlds. -/
structure Provider (W : Type) where
  registry : Registry W
  hooks : Hooks W := {}

def Provider.executor {W : Type} (p : Provider W) : Executor W where
  setUp := p.hooks.setUp
  tearDown := p.hooks.tearDown
  execute := dispatch p.registry

/-- An executor with its state. -/
structure LiveExecutor where
  State : Type
  executor : Executor State
  state : State

namespace LiveExecutor

def null : LiveExecutor := ⟨Unit, .null, ()⟩

def ofProvider {W : Type} (p : Provider W) (world : W) : LiveExecutor := ⟨W, p.executor, world⟩

end LiveExecutor
end FeatureScript
