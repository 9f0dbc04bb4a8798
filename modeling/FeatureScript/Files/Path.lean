import FeatureScript.Text.Split

/-!
# FeatureScript.Files.Path

Paths as texts. Names are separated by slashes; empty names and names of a single dot lead nowhere
and do not count.
-/

namespace FeatureScript
namespace Path

/-- The names on a path that count. -/
def names (path : String) : List String :=
  ((Text.split '/' path.toList).filter fun name => name ≠ [] ∧ name ≠ ['.']).map String.ofList

/-- The name of what a path leads to. A path that ends by going up has none. -/
def fileName? (path : String) : Option String :=
  match (names path).getLast? with
  | some name => if name = ".." then none else some name
  | none => none

/-- The path of an entry of a directory. -/
def join (dir name : String) : String :=
  match dir.toList.getLast? with
  | none | some '/' => dir ++ name
  | some _ => dir ++ "/" ++ name

end Path
end FeatureScript
