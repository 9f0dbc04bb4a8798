import Std.Data.TreeMap

/-!
# FeatureScript.Pattern.Footprint.Sharing

Tables by which states that were laid out before are used again. A table has a number of slots; a
key belongs to the slot that its hash gives, and a slot remembers the last state that was put into
it. So a state may be forgotten and be laid out a second time.
-/

namespace FeatureScript
namespace Pattern

structure Shared where
  slots : Nat
  entries : Std.TreeMap Nat (List Nat × Nat) := {}

namespace Shared

/-- The 64-bit hash of a list of numbers (FNV-1a, a number at a time). -/
def hash (key : List Nat) : UInt64 :=
  key.foldl (fun h n => (h ^^^ n.toUInt64) * 1099511628211) 14695981039346656037

def slot (t : Shared) (key : List Nat) : Nat := (hash key).toNat % t.slots

/-- The state that has the key, if the table remembers it. -/
def find? (t : Shared) (key : List Nat) : Option Nat :=
  match t.entries[t.slot key]? with
  | some (found, state) => if found = key then some state else none
  | none => none

def insert (t : Shared) (key : List Nat) (state : Nat) : Shared :=
  { t with entries := t.entries.insert (t.slot key) (key, state) }

end Shared
end Pattern
end FeatureScript
