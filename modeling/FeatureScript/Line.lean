import FeatureScript.Keyword
import FeatureScript.Text.Lines
import FeatureScript.Unicode.Case

/-!
# FeatureScript.Line

The line grammar of feature scripts.

A line is read without its leading white space. It is a heading if it goes on with `Feature` or
`Scenario`, white space if any, a colon and a payload; it is a step if it goes on with a keyword,
white space and a payload; any other line is plain text. Letters match in either case; the names of
headings match under simple case folding, so `ſcenario` opens a scenario.

The payload is what follows, without leading white space. When only white space follows, its last
character is the payload. A payload is never empty and holds no `\n`.
-/

namespace FeatureScript

/-- A line of a script with its position. -/
structure Line where
  text : String
  number : Nat
  source : String
  deriving DecidableEq, Repr, Inhabited

/-- Where the line stands: the name of its script and its number. -/
def Line.location (l : Line) : String := l.source ++ ":" ++ toString l.number

/-- The lines of a script, numbered from one. -/
def scriptLines (text source : String) : List Line :=
  ((Text.lines text.toList).zipIdx 1).map fun (cs, n) => ⟨String.ofList cs, n, source⟩

/-- What a line says. -/
inductive Token where
  | feature (label : String)
  | scenario (label : String)
  | step (keyword : Keyword) (text : String)
  | text
  deriving DecidableEq, Repr, Inhabited

/-- The kind of a line, without what follows its keyword. -/
inductive LineKind where
  | feature
  | scenario
  | step (keyword : Keyword)
  | unknown
  deriving DecidableEq, Repr

def LineKind.name : LineKind → String
  | .feature => "Feature"
  | .scenario => "Scenario"
  | .step k => k.name
  | .unknown => "Unknown"

def Token.kind : Token → LineKind
  | .feature _ => .feature
  | .scenario _ => .scenario
  | .step k _ => .step k
  | .text => .unknown

namespace Grammar

open Text Unicode

/-- The payload of a line, from what follows its colon or the first blank after its keyword. -/
def payload? (rest : List Char) : Option (List Char) :=
  match dropBlanks rest with
  | [] =>
    match rest.getLast? with
    | some c => if c = '\n' then none else some [c]
    | none => none
  | found => if '\n' ∈ found then none else some found

/-- What follows `word`, if the text begins with it up to `same`. -/
def dropWord? (same : Char → Char → Bool) : List Char → List Char → Option (List Char)
  | [], rest => some rest
  | _ :: _, [] => none
  | w :: word, c :: rest => if same w c then dropWord? same word rest else none

/-- Equality under simple case folding. -/
def sameFolded (a b : Char) : Bool := fold a.toNat == fold b.toNat

/-- Equality up to the case of ASCII letters. -/
def sameLetter (a b : Char) : Bool := a.toLower == b.toLower

/-- The payload of the heading `name`. -/
def heading? (name : String) (rest : List Char) : Option (List Char) :=
  match dropWord? sameFolded name.toList rest with
  | none => none
  | some rest =>
    match dropBlanks rest with
    | ':' :: rest => payload? rest
    | _ => none

/-- The payload of a step under `k`. -/
def stepText? (k : Keyword) (rest : List Char) : Option (List Char) :=
  match dropWord? sameLetter k.name.toList rest with
  | some (c :: rest) => if isBlank c then payload? rest else none
  | _ => none

def step? (rest : List Char) : Option Token :=
  Keyword.all.findSome? fun k => (stepText? k rest).map fun cs => .step k (String.ofList cs)

def token (line : List Char) : Token :=
  let rest := dropBlanks line
  match heading? "feature" rest with
  | some label => .feature (String.ofList label)
  | none =>
    match heading? "scenario" rest with
    | some label => .scenario (String.ofList label)
    | none => (step? rest).getD .text

end Grammar

/-- What a line of text says. -/
def classify (line : String) : Token := Grammar.token line.toList

def Line.token (l : Line) : Token := classify l.text

end FeatureScript
