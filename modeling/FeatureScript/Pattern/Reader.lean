import FeatureScript.Pattern.CharClass
import FeatureScript.Pattern.Footprint.Program
import FeatureScript.Pattern.Piece
import FeatureScript.Unicode.Letter

/-!
# FeatureScript.Pattern.Reader

From the text of a pattern to a regular expression.

The reader goes through the text once and keeps the groups that are open on a stack. Each round
takes at least one character, so as many rounds as there are characters suffice. A pattern is
rejected with a `Fault`.
-/

namespace FeatureScript
namespace Pattern
namespace Reader

open Unicode

/-! ## Repetitions -/

/-- Counts are below `2 ^ 32`. -/
def countLimit : Nat := 4294967296

/-- A decimal number below `countLimit`, with white space around it. -/
def decimal (cs : List Char) : Read Nat :=
  let cs := cs.dropWhile isBlank
  let digits := cs.takeWhile Char.isDigit
  let rest := (cs.dropWhile Char.isDigit).dropWhile isBlank
  let value := digits.foldl (fun n d => n * 10 + (d.toNat - '0'.toNat)) 0
  if digits.isEmpty || decide (countLimit ≤ value) then .error .badCount else .ok (value, rest)

/-- The question mark that makes a repetition lazy. -/
def readLazy (cs : List Char) : Bool × List Char :=
  match cs with
  | '?' :: rest => (true, rest)
  | cs => (false, cs)

/-- The bounds of a counted repetition, after its opening brace. -/
def counts (verbose : Bool) (cs : List Char) : Read (Nat × Option Nat) :=
  match decimal (skip verbose cs) with
  | .error e => .error e
  | .ok (least, '\x7d' :: rest) => .ok ((least, some least), rest)
  | .ok (least, ',' :: rest) =>
    match skip verbose rest with
    | '\x7d' :: rest => .ok ((least, none), rest)
    | rest =>
      match decimal rest with
      | .ok (most, '\x7d' :: rest) =>
        if least ≤ most then .ok ((least, some most), rest) else .error .badCount
      | _ => .error .badCount
  | .ok _ => .error .badCount

/-! ## Groups -/

/-- A group that is not closed yet, with what was read before it and the flags around it. -/
structure OpenGroup where
  index : Option Nat
  around : Branches
  flags : Flags

structure State where
  outer : List OpenGroup := []
  here : Branches := {}
  flags : Flags := {}
  groups : Nat := 0
  names : List (List Char) := []

def isNameStart (c : Char) : Bool := c == '_' || isLetter c

def isNamePart (c : Char) : Bool :=
  c == '_' || c == '.' || c == '[' || c == ']' || isLetter c || isNumeral c

/-- The name of a group, after its opening angle bracket. -/
def groupName (names : List (List Char)) (cs : List Char) : Read (List Char) :=
  let name := cs.takeWhile (· != '>')
  match name, cs.dropWhile (· != '>') with
  | c :: more, _ :: rest =>
    if isNameStart c && more.all isNamePart && !names.contains name then .ok (name, rest)
    else .error .badGroupName
  | _, _ => .error .badGroupName

/-- Flags up to the character that ends them. Each may be named once; a hyphen, which may stand once
and not last, clears those after it. -/
def readFlags (flags : Flags) (on : Bool) (seen : List Char) : List Char → Read (Flags × Bool)
  | [] => .error .badFlags
  | c :: rest =>
    if c = ':' ∨ c = ')' then
      if seen.head? = some '-' then .error .badFlags else .ok ((flags, !seen.isEmpty), c :: rest)
    else if c = '-' then
      if on then readFlags flags false ('-' :: seen) rest else .error .badFlags
    else if seen.contains c then .error .badFlags
    else
      match Flags.set flags c on with
      | some flags => readFlags flags on (c :: seen) rest
      | none => .error .badFlags

def State.enter (s : State) (index : Option Nat) (flags : Flags) : State :=
  { s with outer := ⟨index, s.here, s.flags⟩ :: s.outer, here := {}, flags }

def State.enterCapture (s : State) : State :=
  { s.enter (some (s.groups + 1)) s.flags with groups := s.groups + 1 }

/-- The start of a group, after its parenthesis. -/
def openGroup (s : State) (cs : List Char) : Read State :=
  match skip s.flags.verbose cs with
  | '?' :: '=' :: _ | '?' :: '!' :: _ | '?' :: '<' :: '=' :: _ | '?' :: '<' :: '!' :: _ =>
    .error .lookaround
  | '?' :: 'P' :: '<' :: rest | '?' :: '<' :: rest =>
    (groupName s.names rest).map fun (name, rest) =>
      ({ s.enterCapture with names := name :: s.names }, rest)
  | '?' :: rest =>
    match readFlags s.flags true [] rest with
    | .error e => .error e
    | .ok ((flags, any), rest) =>
      match rest with
      | ')' :: rest =>
        if any then .ok ({ s with flags, here := s.here.push .flags }, rest)
        else .error .nothingToRepeat
      | _ :: rest => .ok (s.enter none flags, rest)
      | [] => .error .badFlags
  | rest => .ok (s.enterCapture, rest)

def closeGroup (s : State) : Except Fault State :=
  match s.outer with
  | [] => .error .unopenedGroup
  | g :: outer =>
    let body := s.here.value
    let expr := match g.index with
      | some i => Expr.group i body.expr
      | none => body.expr
    let piece := { expr, depth := body.depth + 1 }
    .ok { s with outer, here := g.around.push (.piece piece), flags := g.flags }

/-- Repeats what was read last. -/
def repeatLast (s : State) (min : Nat) (max : Option Nat) (cs : List Char) : Read State :=
  match s.here.parts with
  | .piece p :: parts =>
    let (isLazy, rest) := readLazy cs
    let p := p.repeated (isLazy == s.flags.lazy) min max
    .ok ({ s with here := { s.here with parts := .piece p :: parts } }, rest)
  | _ => .error .nothingToRepeat

def State.push (s : State) (p : Piece) : State := { s with here := s.here.push (.piece p) }

/-- Adds one character of a set. -/
def State.addSet (s : State) (set : CharSet) (depth : Nat) : State :=
  s.push { expr := .ofSet set, depth }

def State.addAssertion (s : State) (a : Assertion) : State := s.push { expr := .assert a }

def charSet (flags : Flags) (c : Char) : CharSet := (CharSet.single c).foldIf flags.folding

def dotSet (flags : Flags) : CharSet :=
  if flags.dotAll then .any
  else if flags.returns then .compl (.union (.single '\r') (.single '\n'))
  else .compl (.single '\n')

def caret (flags : Flags) : Assertion :=
  if flags.lines then (if flags.returns then .returnLineStart else .lineStart) else .textStart

def dollar (flags : Flags) : Assertion :=
  if flags.lines then (if flags.returns then .returnLineEnd else .lineEnd) else .textEnd

/-- One round of reading. -/
def step (s : State) (c : Char) (rest : List Char) : Read State :=
  match c with
  | '(' => openGroup s rest
  | ')' => (closeGroup s).map fun s => (s, rest)
  | '|' => .ok ({ s with here := s.here.bar }, rest)
  | '[' => (readClass s.flags rest).map fun (s', rest) => (s.addSet s'.set s'.depth, rest)
  | '?' => repeatLast s 0 (some 1) rest
  | '*' => repeatLast s 0 none rest
  | '+' => repeatLast s 1 none rest
  | '\x7b' =>
    match s.here.parts with
    | .piece _ :: _ =>
      match counts s.flags.verbose rest with
      | .error e => .error e
      | .ok ((min, max), rest) => repeatLast s min max (skip s.flags.verbose rest)
    | _ => .error .nothingToRepeat
  | '.' => .ok (s.addSet (dotSet s.flags) 0, rest)
  | '^' => .ok (s.addAssertion (caret s.flags), rest)
  | '$' => .ok (s.addAssertion (dollar s.flags), rest)
  | '\\' =>
    match escape s.flags.verbose rest with
    | .error e => .error e
    | .ok (.char c, rest) => .ok (s.addSet (charSet s.flags c) 0, rest)
    | .ok (.set set, rest) => .ok (s.addSet set 0, rest)
    | .ok (.assert a, rest) => .ok (s.addAssertion a, rest)
  | c => .ok (s.addSet (charSet s.flags c) 0, rest)

def readFrom (fuel : Nat) (s : State) (cs : List Char) : Except Fault State :=
  match fuel, skip s.flags.verbose cs with
  | _, [] => .ok s
  | 0, _ => .ok s
  | fuel + 1, c :: rest =>
    match step s c rest with
    | .error e => .error e
    | .ok (s, rest) => readFrom fuel s rest

/-- Expressions nested deeper than this are rejected. -/
def depthLimit : Nat := 250

/-- The expression that a pattern describes. -/
def read (cs : List Char) : Except Fault Expr :=
  match readFrom cs.length {} cs with
  | .error e => .error e
  | .ok s =>
    if s.outer.isEmpty then
      let p := s.here.value
      if depthLimit < p.depth then .error .tooDeep
      else if p.expr.fits then .ok p.expr
      else .error .tooLarge
    else .error .unclosedGroup

end Reader
end Pattern
end FeatureScript
