/-!
# FeatureScript.Unicode.Ranges

Sets of code points, written as inclusive ranges in ascending order.
-/

namespace FeatureScript
namespace Unicode

/-- Inclusive ranges of code points in ascending order, no two of them overlapping or touching. -/
abbrev Ranges := List (Nat × Nat)

def lastCodePoint : Nat := 0x10FFFF

namespace Ranges

/-- Membership. The order of the ranges lets the scan stop at the first one that ends at or after
the code point. -/
def has : Ranges → Nat → Bool
  | [], _ => false
  | (first, last) :: rest, n => if n ≤ last then decide (first ≤ n) else has rest n

/-- A range with ranges that start no earlier; those that overlap or touch are joined. -/
def joinFrom (first last : Nat) : List (Nat × Nat) → Ranges
  | [] => [(first, last)]
  | (a, b) :: rest =>
    if a ≤ last + 1 then joinFrom first (Nat.max last b) rest
    else (first, last) :: joinFrom a b rest

/-- The ranges of a list in ascending order of their starts. -/
def join : List (Nat × Nat) → Ranges
  | [] => []
  | (first, last) :: rest => joinFrom first last rest

def union (a b : Ranges) : Ranges := join (List.merge a b fun r s => decide (r.1 ≤ s.1))

/-- The code points from `start` on that are in none of the ranges, which start no earlier. -/
def complFrom (start : Nat) : Ranges → Ranges
  | [] => if start ≤ lastCodePoint then [(start, lastCodePoint)] else []
  | (first, last) :: rest =>
    if start < first then (start, first - 1) :: complFrom (last + 1) rest
    else complFrom (last + 1) rest

def compl (a : Ranges) : Ranges := complFrom 0 a

def inter (a b : Ranges) : Ranges := compl (union (compl a) (compl b))

/-- The set of the code points of a list. -/
def ofPoints (points : List Nat) : Ranges :=
  join ((points.mergeSort fun m n => decide (m ≤ n)).map fun n => (n, n))

end Ranges
end Unicode
end FeatureScript
