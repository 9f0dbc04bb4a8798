import FeatureScript.Keyword
import FeatureScript.Pattern.Basic

/-!
# FeatureScript.Advice.Template

Names and literals in the templates that advice prints.

* `handlerName`: the keyword and the words of a step text, in small letters, joined by underscores.
  A word is a maximal run of ASCII letters.
* `rawLiteral`: a raw string literal; one with a double quote inside is fenced by a hash.
-/

namespace FeatureScript
namespace Advice

/-- The maximal runs of ASCII letters, where `current` holds the letters read of the first one, from
the last to the first. -/
def wordsFrom (current : List Char) : List Char → List (List Char)
  | [] => if current.isEmpty then [] else [current.reverse]
  | c :: rest =>
    if c.isAlpha then wordsFrom (c :: current) rest
    else if current.isEmpty then wordsFrom [] rest
    else current.reverse :: wordsFrom [] rest

def words (cs : List Char) : List (List Char) := wordsFrom [] cs

def handlerName (keyword : Keyword) (text : String) : String :=
  String.ofList (keyword.lowerName.toList ++
    (words text.toList).flatMap fun word => '_' :: word.map Char.toLower)

def rawLiteral (text : String) : String :=
  if text.toList.contains '"' then "r#\"" ++ text ++ "\"#" else "r\"" ++ text ++ "\""

end Advice
end FeatureScript
