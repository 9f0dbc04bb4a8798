import FeatureScript.Text.Trim
import FeatureScript.Text.Literal

/-!
# FeatureScript.Keyword

The keywords that open a step line. `Given`, `When` and `Then` are primary: definitions are looked
up under them. `And` and `But` continue the step before them and take its primary keyword, which a
`Session` remembers.
-/

namespace FeatureScript

inductive Keyword where
  | given
  | when
  | then
  | and
  | but
  deriving DecidableEq, Repr, Inhabited

namespace Keyword

/-- All keywords, in the order in which they are tried. -/
def all : List Keyword := [.given, .when, .then, .and, .but]

def name : Keyword → String
  | .given => "Given"
  | .when => "When"
  | .then => "Then"
  | .and => "And"
  | .but => "But"

/-- The name in small letters. -/
def lowerName : Keyword → String
  | .given => "given"
  | .when => "when"
  | .then => "then"
  | .and => "and"
  | .but => "but"

def isConjunction : Keyword → Bool
  | .and | .but => true
  | .given | .when | .then => false

instance : Text.Literal Keyword := ⟨name⟩

/-- The texts agree up to the case of ASCII letters. -/
def sameLetters (a b : List Char) : Bool := a.map Char.toLower == b.map Char.toLower

/-- What was found in place of a keyword. -/
structure ParseError where
  text : String
  deriving DecidableEq, Repr

def ParseError.message (e : ParseError) : String := "invalid step keyword: " ++ e.text

/-- Reads a keyword in any case, with white space around it. -/
def parse (s : String) : Except ParseError Keyword :=
  let word := Text.trim s.toList
  match all.find? (fun k => sameLetters word k.name.toList) with
  | some k => .ok k
  | none => .error ⟨String.ofList word⟩

end Keyword

/-- What a run remembers about the steps so far: the last primary keyword. -/
structure Session where
  last : Option Keyword := none
  deriving DecidableEq, Repr, Inhabited

namespace Session

/-- A session in which no primary keyword has been met. -/
def fresh : Session := {}

/-- The keyword a step is looked up under. A primary keyword stands for itself and is remembered; a
conjunction stands for the remembered keyword, if there is one. -/
def resolve (s : Session) (k : Keyword) : Option Keyword × Session :=
  if k.isConjunction then (s.last, s) else (some k, ⟨some k⟩)

end Session
end FeatureScript
