import FeatureScript.Pattern.Reader
import FeatureScript.Pattern.Search
import FeatureScript.Text.Trim

/-!
# FeatureScript.Pattern.Basic

Step patterns: compiled from their text, they take a step text apart into captures.

* `StepPattern.compile`, `StepPattern.captures`.
* `literalPattern`: a pattern for one text and nothing else.
-/

namespace FeatureScript

open Pattern

/-- The pattern cannot be read. -/
structure PatternError where
  pattern : String
  fault : Fault
  deriving DecidableEq, Repr

/-- What is wrong inside a pattern; faults are not told apart. -/
def PatternError.cause (_ : PatternError) : String := "<regex error>"

def PatternError.message (e : PatternError) : String :=
  "invalid step pattern `" ++ e.pattern ++ "`: " ++ e.cause

/-- A pattern with the text it was read from. -/
structure StepPattern where
  source : String
  regex : Regex
  deriving Repr, Inhabited

namespace StepPattern

def compile (source : String) : Except PatternError StepPattern :=
  match Reader.read source.toList with
  | .ok expr => .ok ⟨source, expr.regex⟩
  | .error fault => .error ⟨source, fault⟩

/-- Number of capture groups. -/
def groups (p : StepPattern) : Nat := p.regex.groups

/-- The text of each group in the preferred match, in order of the groups. A group that took no part
gives the empty text. -/
def captures (p : StepPattern) (text : String) : Option (List String) :=
  let cs := text.toList.toArray
  (search p.regex.program cs).map fun marks =>
    (List.range p.groups).map fun i =>
      match spanOf? marks (i + 1) with
      | some (first, last) => String.ofList (cs.extract first last).toList
      | none => ""

end StepPattern

/-- Characters that mean something in a pattern. -/
def isPatternMeta (c : Char) : Bool :=
  ['\\', '.', '+', '*', '?', '(', ')', '|', '[', ']', '\x7b', '\x7d', '^', '$', '#', '&', '-',
    '~'].contains c

/-- The text with a backslash before each character that means something in a pattern. -/
def escapePattern (cs : List Char) : List Char :=
  cs.flatMap fun c => if isPatternMeta c then ['\\', c] else [c]

/-- The pattern of the trimmed text. -/
def literalPattern (text : String) : String :=
  String.ofList ('^' :: (escapePattern (Text.trim text.toList) ++ ['$']))

end FeatureScript
