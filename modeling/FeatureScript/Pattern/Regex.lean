import FeatureScript.Pattern.CharSet

/-!
# FeatureScript.Pattern.Regex

Regular expressions with capture groups and assertions. Alternatives and repetitions are ordered:
the first alternative and, for a greedy repetition, one more round are preferred.

Counted repetitions are written out (`repeated`), so the expressions themselves have three loops:
`optional`, `many` and `loop`.
-/

namespace FeatureScript
namespace Pattern

/-- A condition on a position of the text. -/
inductive Assertion where
  | textStart
  | textEnd
  | lineStart
  | lineEnd
  /-- As `lineStart` and `lineEnd`, where `\r` and `\r\n` end a line as well. -/
  | returnLineStart
  | returnLineEnd
  | wordBoundary
  | notWordBoundary
  | wordStart
  | wordEnd
  | notAfterWord
  | notBeforeWord
  deriving DecidableEq, Repr

inductive Regex where
  | empty
  | one (set : CharSet)
  | assert (a : Assertion)
  | group (index : Nat) (body : Regex)
  | seq (a b : Regex)
  | alt (a b : Regex)
  | optional (greedy : Bool) (body : Regex)
  /-- Any number of rounds of a body that always consumes. -/
  | many (greedy : Bool) (body : Regex)
  /-- One round and any number more. -/
  | loop (greedy : Bool) (body : Regex)
  deriving Repr, Inhabited

namespace Regex

/-- The expression has a match without characters. -/
def nullable : Regex → Bool
  | empty | assert _ => true
  | one _ => false
  | group _ r => r.nullable
  | seq a b => a.nullable && b.nullable
  | alt a b => a.nullable || b.nullable
  | optional _ _ | many _ _ => true
  | loop _ r => r.nullable

/-- Number of capture groups: the largest index in use. -/
def groups : Regex → Nat
  | empty | assert _ | one _ => 0
  | group i r => max i r.groups
  | seq a b | alt a b => max a.groups b.groups
  | optional _ r | many _ r | loop _ r => r.groups

/-- The expressions of a list one after the other. -/
def seqAll : List Regex → Regex
  | [] => empty
  | [r] => r
  | r :: rest => seq r (seqAll rest)

/-- `n` rounds. -/
def power (r : Regex) : Nat → Regex
  | 0 => empty
  | 1 => r
  | n + 1 => seq r (power r n)

/-- Up to `n` rounds: each further round hangs on the one before it. -/
def upTo (greedy : Bool) (r : Regex) : Nat → Regex
  | 0 => empty
  | 1 => optional greedy r
  | n + 1 => optional greedy (seq r (upTo greedy r n))

/-- Any number of rounds. A body that can be empty is tried once more than it is left, so that its
empty match counts as a round. -/
def star (greedy : Bool) (r : Regex) : Regex :=
  if r.nullable then optional greedy (loop greedy r) else many greedy r

/-- At least `n` rounds. -/
def atLeast (greedy : Bool) (r : Regex) : Nat → Regex
  | 0 => star greedy r
  | 1 => loop greedy r
  | n + 1 => seq (power r n) (loop greedy r)

/-- Between `min` and `max` rounds; without `max`, any number from `min` on. -/
def repeated (greedy : Bool) (r : Regex) (min : Nat) : (max : Option Nat) → Regex
  | none => atLeast greedy r min
  | some max =>
    if max = 0 then empty
    else if min = 0 then upTo greedy r max
    else if max - min = 0 then power r min
    else seq (power r min) (upTo greedy r (max - min))

end Regex
end Pattern
end FeatureScript
