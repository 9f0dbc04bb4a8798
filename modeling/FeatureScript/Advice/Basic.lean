import FeatureScript.Advice.Template

/-!
# FeatureScript.Advice.Basic

Suggestions for scripts that are not complete yet, with templates to start from.
-/

namespace FeatureScript

inductive Advice where
  | missingFeaturesDir (dir : String)
  | noFeatures (dir : String)
  /-- No definitions are registered for a feature file. -/
  | noProvider (helper typeName feature : String)
  | noScenarios
  /-- A step was looked up under a keyword and not found. -/
  | missingStep (lineNumber : Nat) (keyword : Keyword) (text : String)
  | noAssertions (lineNumber : Nat)
  deriving DecidableEq, Repr

namespace Advice

/-- Lines of text, each with its end. -/
def textOfLines (lines : List String) : String := String.join (lines.map (· ++ "\n"))

def message : Advice → String
  | .missingFeaturesDir dir =>
    "Directory " ++ dir ++ "/ not found. Create it with:\n    mkdir " ++ dir
  | .noFeatures dir => textOfLines
    ["No feature specs found. Start by creating one in " ++ dir ++
      "/my_feature.feature. You can use the following template:",
      "Feature: ...",
      "  In order ...",
      "  As a ...",
      "  I want ..."]
  | .noProvider helper typeName feature => textOfLines
    ["No step definitions registered for " ++ feature ++ ". Register a world under \"" ++ helper ++
      "\". You can use the following template:",
      "",
      "#[derive(Default)]",
      "struct " ++ typeName ++ ";",
      "",
      "impl ScenarioHooks for " ++ typeName ++ " \x7b\x7d",
      "",
      "impl StepDefinitions for " ++ typeName ++ " \x7b",
      "    fn register(steps: &mut StepRegistry<Self>) -> Result<(), RegistryError> \x7b",
      "        Ok(())",
      "    \x7d",
      "\x7d",
      "",
      "catalog.register_world::<" ++ typeName ++ ">(\"" ++ helper ++ "\");"]
  | .noScenarios => textOfLines
    ["You don't have any scenarios in your feature. You can use the following template:",
      "",
      "  Scenario: ...",
      "    Given ...",
      "    When ...",
      "    Then ..."]
  | .missingStep lineNumber keyword text => textOfLines
    ["You have an unrecognised step in line " ++ toString lineNumber ++
      ". You can use the following template:",
      "",
      "  steps." ++ keyword.lowerName ++ "(" ++ rawLiteral (literalPattern text) ++ ", " ++
        handlerName keyword text ++ ")?;",
      "",
      "  fn " ++ handlerName keyword text ++
        "(world: &mut World, step: &mut StepContext<'_>) -> Result<(), StepError> \x7b",
      "      Ok(())",
      "  \x7d"]
  | .noAssertions lineNumber =>
    "Your test on line " ++ toString lineNumber ++ " does not make any assertions."

end Advice
end FeatureScript
