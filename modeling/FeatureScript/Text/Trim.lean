import FeatureScript.Unicode.Blank

/-!
# FeatureScript.Text.Trim

White space at the ends of a text.
-/

namespace FeatureScript
namespace Text

open Unicode

/-- The text without its leading white space. -/
def dropBlanks (cs : List Char) : List Char := cs.dropWhile isBlank

/-- The text without its leading and its trailing white space. -/
def trim (cs : List Char) : List Char := (dropBlanks (dropBlanks cs).reverse).reverse

/-- `trim` on strings. -/
def trimmed (s : String) : String := String.ofList (trim s.toList)

/-- A text of nothing but white space, the empty text included. -/
def isAllBlank (cs : List Char) : Bool := cs.all isBlank

end Text
end FeatureScript
