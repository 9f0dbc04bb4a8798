import FeatureScript.Pattern.Regex

/-!
# FeatureScript.Pattern.Expr

What a pattern says, in a short form: texts are kept whole, counted repetitions keep their counts,
and expressions are put together by functions that leave out what is superfluous (`sequence`,
`choice`, `repeated`, `ofSet`).

* Sequences and choices lean to the right, and neither has one of its own kind as an item.
* Neighbouring texts of a sequence are one text, and a set of one character is a text.
* A choice among characters is a set; what all branches of a choice begin with stands before it.

`Expr.regex` writes the counts out.
-/

namespace FeatureScript
namespace Pattern

inductive Expr where
  | empty
  | text (cs : List Char)
  | one (set : CharSet)
  | assert (a : Assertion)
  | group (index : Nat) (body : Expr)
  /-- Between `min` and `max` rounds; without `max`, any number from `min` on. -/
  | rounds (greedy : Bool) (body : Expr) (min : Nat) (max : Option Nat)
  | seq (a b : Expr)
  | alt (a b : Expr)
  deriving DecidableEq, Repr, Inhabited

namespace Expr

/-! ## Measures -/

/-- No match of the expression has characters. -/
def idle : Expr → Bool
  | empty | assert _ => true
  | text cs => cs.isEmpty
  | one _ => false
  | group _ e | rounds _ e _ _ => e.idle
  | seq a b | alt a b => a.idle && b.idle

/-- A number of characters that every match has; none where some part has no match. -/
def leastLength? : Expr → Option Nat
  | empty | assert _ => some 0
  | text cs => some cs.length
  | one set => if set.ranges.isEmpty then none else some 1
  | group _ e => e.leastLength?
  | rounds _ e min _ => e.leastLength?.map (min * ·)
  | seq a b =>
    match a.leastLength?, b.leastLength? with
    | some m, some n => some (m + n)
    | _, _ => none
  | alt a b =>
    match a.leastLength?, b.leastLength? with
    | some m, some n => some (Nat.min m n)
    | _, _ => none

/-- Every match starts at the start of the text. -/
def startsText : Expr → Bool
  | assert a => a == .textStart
  | group _ e => e.startsText
  | rounds _ e min _ => decide (0 < min) && e.startsText
  | seq a b => a.startsText || (a.idle && b.startsText)
  | alt a b => a.startsText && b.startsText
  | _ => false

/-- Every match ends at the end of the text. -/
def endsText : Expr → Bool
  | assert a => a == .textEnd
  | group _ e => e.endsText
  | rounds _ e min _ => decide (0 < min) && e.endsText
  | seq a b => b.endsText || (b.idle && a.endsText)
  | alt a b => a.endsText && b.endsText
  | _ => false

/-! ## Sequences -/

/-- The items of a sequence. -/
def items : Expr → List Expr
  | empty => []
  | seq a b => a :: b.items
  | e => [e]

def ofItems : List Expr → Expr
  | [] => empty
  | [e] => e
  | e :: rest => seq e (ofItems rest)

/-- Makes one text of neighbouring texts. -/
def joinTexts : List Expr → List Expr
  | [] => []
  | text cs :: rest =>
    match joinTexts rest with
    | text ds :: more => text (cs ++ ds) :: more
    | more => text cs :: more
  | e :: rest => e :: joinTexts rest

/-- The expressions one after the other. -/
def sequence (es : List Expr) : Expr := ofItems (joinTexts (es.flatMap items))

/-! ## Sets, repetitions and choices -/

/-- One character of a set. -/
def ofSet (set : CharSet) : Expr :=
  match set.only? with
  | some c => text [c]
  | none => one set

/-- Rounds of a body. More than one round of an idle body is the same as one round. -/
def repeated (greedy : Bool) (body : Expr) (min : Nat) (max : Option Nat) : Expr :=
  let (min, max) := if body.idle then (Nat.min min 1, some (Nat.min (max.getD 1) 1)) else (min, max)
  if min = 0 ∧ max = some 0 then empty
  else if min = 1 ∧ max = some 1 then body
  else rounds greedy body min max

/-- The branches of a choice. -/
def branches : Expr → List Expr
  | alt a b => a :: b.branches
  | e => [e]

def ofBranches : List Expr → Expr
  | [] => one .none
  | [e] => e
  | e :: rest => alt e (ofBranches rest)

def text? : Expr → Option (List Char)
  | text cs => some cs
  | _ => none

def char? : Expr → Option Char
  | text [c] => some c
  | _ => none

def set? : Expr → Option CharSet
  | one set => some set
  | _ => none

def isSequence : Expr → Bool
  | seq _ _ => true
  | _ => false

/-- The set that a choice comes to, if all branches are single characters or all are sets. -/
def mergedSet? (es : List Expr) : Option CharSet :=
  match es.mapM char? with
  | some cs => some ⟨.ofPoints (cs.map Char.toNat)⟩
  | none => (es.mapM set?).map fun sets => sets.foldl .union .none

/-- A choice among branches that begin differently. -/
def choiceOf (es : List Expr) : Expr :=
  match es with
  | [] | [_] => ofBranches es
  | _ =>
    match mergedSet? es with
    | some set => ofSet set
    | none => ofBranches es

/-- What two lists begin with. -/
def common : List Expr → List Expr → List Expr
  | a :: as, b :: bs => if a = b then a :: common as bs else []
  | _, _ => []

/-- The items that all of the branches begin with, if all are sequences. -/
def commonItems : List Expr → List Expr
  | [] | [_] => []
  | e :: rest =>
    if (e :: rest).all isSequence then rest.foldl (fun found e => common found e.items) e.items
    else []

/-- Ordered choice among the expressions. -/
def choice (es : List Expr) : Expr :=
  let es := es.flatMap branches
  match commonItems es with
  | [] => choiceOf es
  | shared =>
    let rests := es.map fun e => sequence (e.items.drop shared.length)
    sequence (shared ++ [choiceOf (rests.flatMap branches)])

/-! ## Counts written out -/

/-- The expression with its counts written out. -/
def regex : Expr → Regex
  | empty => .empty
  | text cs => .seqAll (cs.map fun c => .one (.single c))
  | one set => .one set
  | assert a => .assert a
  | group i e => .group i e.regex
  | rounds greedy e min max => .repeated greedy e.regex min max
  | seq a b => .seq a.regex b.regex
  | alt a b => .alt a.regex b.regex

end Expr
end Pattern
end FeatureScript
