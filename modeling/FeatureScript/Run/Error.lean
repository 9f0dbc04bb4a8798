import FeatureScript.Files.FileSystem
import FeatureScript.Script.Interpreter

/-!
# FeatureScript.Run.Error

What ends a run early. The chain of an error holds its own text and then the text of each cause,
down to the first one.
-/

namespace FeatureScript

inductive RunError where
  | unreadable (path : String) (cause : FileError)
  | unlisted (path : String) (cause : FileError)
  | notFeature (path : String)
  | definitions (helper : String) (cause : RegistryError)
  | script (cause : InterpretError)
  deriving DecidableEq, Repr

def LifecycleError.chain (e : LifecycleError) : List String := [e.message, e.cause.message]

def InterpretError.chain : InterpretError → List String
  | .danglingConjunction keyword line => [(InterpretError.danglingConjunction keyword line).message]
  | .lifecycle source number cause => (InterpretError.lifecycle source number cause).message ::
      cause.chain

def RegistryError.chain : RegistryError → List String
  | .invalid error => [(RegistryError.invalid error).message, error.cause]
  | .conjunction keyword pattern => [(RegistryError.conjunction keyword pattern).message]

namespace RunError

def message : RunError → String
  | unreadable path cause => "failed to read " ++ path ++ ": " ++ cause.message
  | unlisted path cause => "IO error for operation on " ++ path ++ ": " ++ cause.message
  | notFeature path => "feature file name does not match `<name>.feature`: " ++ path
  | definitions helper cause =>
    "step definitions for `" ++ helper ++ "` are invalid: " ++ cause.message
  | script cause => cause.message

def chain : RunError → List String
  | unreadable path cause => [(unreadable path cause).message, cause.message]
  | unlisted path cause => [(unlisted path cause).message, cause.message]
  | notFeature path => [(notFeature path).message]
  | definitions helper cause => (definitions helper cause).message :: cause.chain
  | script cause => cause.chain

end RunError
end FeatureScript
