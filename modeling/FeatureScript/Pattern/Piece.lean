import FeatureScript.Pattern.Expr

/-!
# FeatureScript.Pattern.Piece

Expressions while a pattern is read, with how deep they are nested as they are written.
-/

namespace FeatureScript
namespace Pattern
namespace Reader

/-- An expression with its nesting depth. -/
structure Piece where
  expr : Expr
  depth : Nat := 0

namespace Piece

def empty : Piece := { expr := .empty }

/-- The depth of what holds the pieces. -/
def depthAround (pieces : List Piece) : Nat := (pieces.map depth).foldl max 0 + 1

/-- Pieces one after the other. -/
def sequence : List Piece → Piece
  | [] => empty
  | [p] => p
  | pieces => { expr := .sequence (pieces.map expr), depth := depthAround pieces }

/-- A choice among pieces. -/
def choice (first : Piece) : List Piece → Piece
  | [] => first
  | rest => { expr := .choice ((first :: rest).map expr), depth := depthAround (first :: rest) }

def repeated (greedy : Bool) (p : Piece) (min : Nat) (max : Option Nat) : Piece :=
  { expr := .repeated greedy p.expr min max, depth := p.depth + 1 }

end Piece

/-- Something read in a branch: an expression, or flags that were set. -/
inductive Part where
  | piece (p : Piece)
  | flags

def Part.value : Part → Piece
  | piece p => p
  | flags => .empty

/-- Branches of an alternation: those that are complete and the parts of the last one, both from the
last to the first. -/
structure Branches where
  done : List Piece := []
  parts : List Part := []

namespace Branches

/-- The last branch as one expression. -/
def last (b : Branches) : Piece := .sequence (b.parts.reverse.map Part.value)

/-- All branches as one expression. -/
def value (b : Branches) : Piece :=
  match b.done.reverse with
  | [] => b.last
  | first :: rest => .choice first (rest ++ [b.last])

def push (b : Branches) (p : Part) : Branches := { b with parts := p :: b.parts }

def bar (b : Branches) : Branches := { done := b.last :: b.done, parts := [] }

end Branches

end Reader
end Pattern
end FeatureScript
