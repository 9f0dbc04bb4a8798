import FeatureScript.Pattern.Basic
import FeatureScript.Keyword
import FeatureScript.Step.Handler

/-!
# FeatureScript.Step.Registry

Step definitions in the order in which they were registered. A step is taken by the first
definition under its keyword whose pattern matches.
-/

namespace FeatureScript

open Text

structure Definition (W : Type) where
  keyword : Keyword
  pattern : StepPattern
  handler : Handler W

/-- Why a definition is refused. -/
inductive RegistryError where
  | invalid (error : PatternError)
  | conjunction (keyword : Keyword) (pattern : String)
  deriving DecidableEq, Repr

def RegistryError.message : RegistryError → String
  | .invalid error => error.message
  | .conjunction keyword pattern =>
    "cannot register `" ++ pattern ++ "` under `" ++ keyword.name ++ "`; use Given, When or Then"

/-- A definition that takes a step, with its position among the definitions and the captures. -/
structure Resolved (W : Type) where
  position : Nat
  definition : Definition W
  captures : List String

structure Registry (W : Type) where
  definitions : List (Definition W) := []

namespace Registry

variable {W : Type}

/-- No definitions. -/
def empty : Registry W := {}

/-- Adds a definition behind the others. Conjunctions are refused whatever the pattern is. -/
def register (r : Registry W) (keyword : Keyword) (pattern : String) (handler : Handler W) :
    Except RegistryError (Registry W) :=
  if keyword.isConjunction then .error (.conjunction keyword pattern)
  else
    match StepPattern.compile pattern with
    | .ok compiled => .ok ⟨r.definitions ++ [⟨keyword, compiled, handler⟩]⟩
    | .error e => .error (.invalid e)

/-- Adds definitions one after the other, up to the first that is refused. -/
def registerAll (r : Registry W) :
    List (Keyword × String × Handler W) → Except RegistryError (Registry W)
  | [] => .ok r
  | (keyword, pattern, handler) :: rest =>
    match r.register keyword pattern handler with
    | .ok r => r.registerAll rest
    | .error e => .error e

/-- The first of some definitions under `keyword` that matches, the first of them standing at
`position`. -/
def resolveFrom (keyword : Keyword) (text : String) (position : Nat) :
    List (Definition W) → Option (Resolved W)
  | [] => none
  | d :: rest =>
    if d.keyword = keyword then
      match d.pattern.captures text with
      | some captures => some ⟨position, d, captures⟩
      | none => resolveFrom keyword text (position + 1) rest
    else resolveFrom keyword text (position + 1) rest

/-- The first definition under `keyword` that matches. -/
def resolve (r : Registry W) (keyword : Keyword) (text : String) : Option (Resolved W) :=
  resolveFrom keyword text 0 r.definitions

end Registry

variable {W : Type}

instance : Literal (Definition W) :=
  ⟨fun d => partialRecordText "StepDefinition"
    [("keyword", literal d.keyword), ("pattern", literal d.pattern.source)]⟩

instance : Literal (Registry W) := ⟨fun r => literal r.definitions⟩

instance : Literal (Resolved W) :=
  ⟨fun r => recordText "Resolved"
    [("definition", literal r.definition), ("captures", literal r.captures)]⟩

end FeatureScript
