import FeatureScript.Script.Executor

/-!
# FeatureScript.World.Lamp

A lamp with a switch, as a small world with code of its own, and a set of definitions that cannot be
registered.
-/

namespace FeatureScript
namespace World

structure Lamp where
  on : Bool := false
  deriving DecidableEq, Repr, Inhabited

namespace Lamp

def flip : Handler Lamp := fun _ lamp => { world := ⟨!lamp.on⟩ }

/-- Checks that the lamp is on, or off, as the first capture says. -/
def isAsSaid : Handler Lamp := fun captures lamp =>
  .ofExcept lamp (captureAt captures 0) fun said =>
    .ofEffects lamp [.checkEq (said == "on") lamp.on]

def definitions : List (Keyword × String × Handler Lamp) :=
  [(.when, "^I flip the switch$", flip), (.then, "^the lamp is (on|off)$", isAsSaid)]

def build : Except RegistryError (Provider Lamp) :=
  (Registry.empty.registerAll definitions).map fun registry => { registry }

end Lamp

/-- Definitions of which the second is refused: conjunctions have none of their own. -/
def brokenDefinitions : List (Keyword × String × Handler Unit) :=
  [(.given, "^fine$", fun _ w => { world := w }), (.but, "^not fine$", fun _ w => { world := w })]

def buildBroken : Except RegistryError (Provider Unit) :=
  (Registry.empty.registerAll brokenDefinitions).map fun registry => { registry }

end World
end FeatureScript
