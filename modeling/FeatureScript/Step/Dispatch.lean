import FeatureScript.Step.Registry
import FeatureScript.Step.Result

/-!
# FeatureScript.Step.Dispatch

Running one step under a primary keyword.

A step that no definition takes is missing. Otherwise the handler of the first definition that takes
it runs once. A handler that gives up fails the step, and its output is dropped. Failed checks fail
the step and keep the output. A `Then` step that made no check has no assertions. All other steps
pass.
-/

namespace FeatureScript

/-- The result of a handler that returned. -/
def classifyReturned (keyword : Keyword) (c : StepContext) : StepResult :=
  if !c.asserter.failures.isEmpty then .fail c.output (.assertions c.asserter.failures)
  else if keyword == .then && c.asserter.passes == 0 then .noAssertions c.output
  else .pass c.output

/-- The result of a performance. -/
def classifyPerformance {W : Type} (keyword : Keyword) (captures : List String)
    (p : Performance W) : StepResult :=
  match p.ending.error? with
  | some e => .fail "" (.error e.message)
  | none => classifyReturned keyword (StepContext.performAll { captures } p.effects)

/-- Runs a step in a world. -/
def dispatch {W : Type} (r : Registry W) (world : W) (keyword : Keyword) (text : String) :
    StepResult × W :=
  match r.resolve keyword text with
  | none => (.missing keyword, world)
  | some resolved =>
    let p := resolved.definition.handler resolved.captures world
    (classifyPerformance keyword resolved.captures p, p.world)

end FeatureScript
