/-!
# FeatureScript.Text.Lines

Splitting a text into lines. A line ends at `\n` or at `\r\n`; the end of the text ends the last
line too, unless nothing stands after the last terminator. A carriage return anywhere else is a
character of its line.
-/

namespace FeatureScript
namespace Text

/-- The characters of a line whose `\n` has been read, from the last to the first: one carriage
return in front of the `\n` belongs to the terminator. -/
def dropReturn : List Char → List Char
  | '\r' :: rest => rest
  | line => line

/-- Lines of a text, where `current` holds what has been read of the first line, last character
first. -/
def linesFrom (current : List Char) : List Char → List (List Char)
  | [] => if current.isEmpty then [] else [current.reverse]
  | c :: rest =>
    if c = '\n' then (dropReturn current).reverse :: linesFrom [] rest
    else linesFrom (c :: current) rest

/-- Lines of a text, without their terminators. -/
def lines (cs : List Char) : List (List Char) := linesFrom [] cs

end Text
end FeatureScript
