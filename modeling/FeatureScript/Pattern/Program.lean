import FeatureScript.Pattern.Regex

/-!
# FeatureScript.Pattern.Program

Regular expressions as programs: lists of instructions that name their successors by index.

The code of an expression starts at its first instruction and leaves to `next`. Every expression
has at least one instruction, so the code of each part has an address of its own.
-/

namespace FeatureScript
namespace Pattern

inductive Instr where
  /-- Takes one character of the set. -/
  | one (set : CharSet) (next : Nat)
  /-- Goes on where the assertion holds. -/
  | assert (a : Assertion) (next : Nat)
  /-- Notes the position as the start or the end of a group. -/
  | mark (group : Nat) (opens : Bool) (next : Nat)
  /-- Goes on at `first`, or else at `second`. -/
  | split (first second : Nat)
  | jump (next : Nat)
  | accept
  deriving Repr, Inhabited

/-- Prefers `body` in a greedy loop and `exit` in a lazy one. -/
def Instr.choose (greedy : Bool) (body exit : Nat) : Instr :=
  if greedy then split body exit else split exit body

namespace Regex

/-- Number of instructions of the code. -/
def size : Regex → Nat
  | empty | one _ | assert _ => 1
  | group _ r => r.size + 2
  | seq a b => a.size + b.size
  | alt a b => a.size + b.size + 1
  | optional _ r | many _ r | loop _ r => r.size + 1

/-- The code of an expression whose first instruction has the address `start`. -/
def code : Regex → (start next : Nat) → List Instr
  | empty, _, next => [.jump next]
  | one s, _, next => [.one s next]
  | assert a, _, next => [.assert a next]
  | group i r, start, next =>
    .mark i true (start + 1) ::
      (r.code (start + 1) (start + 1 + r.size) ++ [.mark i false next])
  | seq a b, start, next =>
    a.code start (start + a.size) ++ b.code (start + a.size) next
  | alt a b, start, next =>
    .split (start + 1) (start + 1 + a.size) ::
      (a.code (start + 1) next ++ b.code (start + 1 + a.size) next)
  | optional greedy r, start, next =>
    .choose greedy (start + 1) next :: r.code (start + 1) next
  | many greedy r, start, next =>
    .choose greedy (start + 1) next :: r.code (start + 1) start
  | loop greedy r, start, next =>
    r.code start (start + r.size) ++ [.choose greedy start next]

theorem length_code (r : Regex) (start next : Nat) : (r.code start next).length = r.size := by
  induction r generalizing start next with
  | empty | one | assert => rfl
  | group i r ih => simp [code, size, ih]
  | seq a b iha ihb => simp [code, size, iha, ihb]
  | alt a b iha ihb => simp [code, size, iha, ihb]
  | optional g r ih | many g r ih | loop g r ih => simp [code, size, ih]

/-- The program that accepts what the expression matches. -/
def program (r : Regex) : Array Instr := (r.code 0 r.size ++ [Instr.accept]).toArray

end Regex
end Pattern
end FeatureScript
