/-!
# FeatureScript.Text.Split

Cutting a list at each occurrence of a separator. The parts keep their order, and between two
separators there is always a part, empty or not.
-/

namespace FeatureScript
namespace Text

variable {α : Type} [DecidableEq α]

/-- The parts of a list that begins with `current`, last element first. -/
def splitFrom (separator : α) (current : List α) : List α → List (List α)
  | [] => [current.reverse]
  | x :: rest =>
    if x = separator then current.reverse :: splitFrom separator [] rest
    else splitFrom separator (x :: current) rest

/-- The parts of a list between separators. -/
def split (separator : α) (xs : List α) : List (List α) := splitFrom separator [] xs

end Text
end FeatureScript
