import FeatureScript.Files.Path
import FeatureScript.Unicode.Case

/-!
# FeatureScript.Run.Helper

Feature files and the names that belong to them. A feature file is named `<helper>.feature`, where
the helper is not empty; its steps are looked up under the helper.
-/

namespace FeatureScript

/-- What the name of a feature file ends with. -/
def featureSuffix : String := ".feature"

/-- What stands in front of `suffix` at the end of a text. -/
def dropSuffix? (suffix cs : List Char) : Option (List Char) :=
  if suffix.isSuffixOf cs then some (cs.take (cs.length - suffix.length)) else none

/-- The helper of the file at a path, if that is a feature file. -/
def helperName? (path : String) : Option String :=
  match Path.fileName? path with
  | none => none
  | some name =>
    match dropSuffix? featureSuffix.toList name.toList with
    | none | some [] => none
    | some helper => some (String.ofList helper)

/-- The word in small letters with a capital at its head. -/
def capitalized (word : List Char) : List Char :=
  match (Unicode.lowercase (String.ofList word)).toList with
  | [] => []
  | c :: rest => Unicode.upper c ++ rest

/-- The name of the type of a helper: its words, which underscores separate, each with a capital,
and `Helper` behind them. -/
def helperTypeName (helper : String) : String :=
  String.ofList ((Text.split '_' helper.toList).flatMap capitalized ++ "Helper".toList)

end FeatureScript
