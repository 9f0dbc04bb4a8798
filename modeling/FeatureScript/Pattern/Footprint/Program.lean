import FeatureScript.Pattern.Expr
import FeatureScript.Pattern.Footprint.Class
import FeatureScript.Pattern.Footprint.Trie

/-!
# FeatureScript.Pattern.Footprint.Program

The room of a pattern. Two automata over the bytes of a text carry a pattern out: one reads forwards
and notes the groups, the other reads backwards and does not. Counts are written out in both.

* `Expr.layOut`: adds an expression to an automaton.
* `Expr.fits`: neither automaton takes too much room.
-/

namespace FeatureScript
namespace Pattern

open Text

/-- The end of a part of an automaton is a choice, as behind a loop: leading on from it takes one
alternative more. -/
abbrev Loops := Bool

def Loops.alternatives (loops : Loops) : Nat := if loops then 1 else 0

/-- Adds a part to an automaton. -/
abbrev Layout := Footprint → Option (Footprint × Loops)

namespace Layout

/-- States that need nothing else. -/
def states (n : Nat) : Layout := fun f => (f.grow n 0 0).map (·, false)

/-- Leads on from the end of a part to one that is added after it. -/
def followedBy (a b : Layout) : Layout := fun f => do
  let (f, loops) ← a f
  let f ← f.grow 0 loops.alternatives 0
  b f

/-- A number of rounds. -/
def exactly (one : Layout) : Nat → Layout
  | 0 => states 1
  | 1 => one
  | n + 1 => fun f => do
    let (f, loops) ← one f
    let f ← f.grow 0 loops.alternatives 0
    exactly one n f

/-- Up to a number of rounds more, each of which hangs on the one before it. -/
def further (one : Layout) : Nat → Footprint × Loops → Option (Footprint × Loops)
  | 0, found => some found
  | n + 1, (f, loops) => do
    let f ← f.grow 1 0 0
    let (f, next) ← one f
    let f ← f.grow 0 (2 + loops.alternatives) 0
    further one n (f, next)

def optional (one : Layout) : Layout := fun f => do
  let f ← f.grow 1 0 0
  let (f, loops) ← one f
  let f ← f.grow 1 (2 + loops.alternatives) 0
  return (f, false)

/-- Any number of rounds of a part that always consumes. -/
def many (one : Layout) : Layout := fun f => do
  let f ← f.grow 1 0 0
  let (f, loops) ← one f
  let f ← f.grow 0 (1 + loops.alternatives) 0
  return (f, true)

/-- One round and any number more. -/
def loop (one : Layout) : Layout := fun f => do
  let (f, loops) ← one f
  let f ← f.grow 1 (1 + loops.alternatives) 0
  return (f, true)

/-- Any number of rounds of a part that can be empty. -/
def optionalLoop (one : Layout) : Layout := fun f => do
  let (f, loops) ← one f
  let f ← f.grow 3 (4 + loops.alternatives) 0
  return (f, false)

def rounds (consumes : Bool) (one : Layout) : (min : Nat) → (max : Option Nat) → Layout
  | 0, none => if consumes then one.many else one.optionalLoop
  | 1, none => one.loop
  | n + 1, none => (one.exactly n).followedBy one.loop
  | min, some max =>
    if min = 0 ∧ max = 1 then one.optional
    else if min = max then one.exactly min
    else fun f => do
      let (f, loops) ← one.exactly min f
      let f ← f.grow 1 0 0
      let (f, loops) ← one.further (max - min) (f, loops)
      let f ← f.grow 0 loops.alternatives 0
      return (f, false)

/-- The marks of a group around a part. -/
def group (d : Direction) (one : Layout) : Layout :=
  match d with
  | .forwards => fun f => do
    let f ← f.grow 1 0 0
    let (f, loops) ← one f
    let f ← f.grow 1 loops.alternatives 0
    return (f, false)
  | .backwards => one

end Layout

/-- Where an expression stands: by itself, or as a branch of a choice. The states of a choice are
added behind its second branch, so its first branch is remembered until then. -/
inductive Place where
  | alone
  | second (first : Loops)
  | later

/-- Leads into and out of what was added, where it is a branch. -/
def Place.settle (p : Place) (found : Footprint × Loops) : Option (Footprint × Loops) :=
  let (f, loops) := found
  match p with
  | alone => some found
  | second first => (f.grow 2 (2 + first.alternatives + loops.alternatives) 0).map (·, false)
  | later => (f.grow 0 (1 + loops.alternatives) 0).map (·, false)

namespace Expr

/-- The bytes of a text, in the order in which an automaton reads them. -/
def bytesOf (d : Direction) (cs : List Char) : List Nat :=
  let bytes := cs.flatMap fun c => utf8Bytes c.toNat
  match d with
  | .forwards => bytes
  | .backwards => bytes.reverse

/-- The branches of a choice, if all are texts. -/
def texts? (e : Expr) : Option (List (List Char)) := e.branches.mapM text?

/-- Adds an expression to an automaton. A choice among texts is a tree of their bytes. -/
def layOut (d : Direction) : Expr → Place → Layout
  | empty, p => fun f => Layout.states 1 f >>= p.settle
  | text cs, p => fun f => Layout.states (bytesOf d cs).length f >>= p.settle
  | one set, p => fun f => (set.layOut d f).bind fun f => p.settle (f, false)
  | assert _, p => fun f => Layout.states 1 f >>= p.settle
  | group _ e, p => fun f => Layout.group d (e.layOut d .alone) f >>= p.settle
  | rounds _ e min max, p => fun f =>
    let consumes := e.leastLength?.any (0 < ·)
    Layout.rounds consumes (e.layOut d .alone) min max f >>= p.settle
  | seq a b, p => fun f =>
    let both := match d with
      | .forwards => (a.layOut d .alone).followedBy (b.layOut d .alone)
      | .backwards => (b.layOut d .alone).followedBy (a.layOut d .alone)
    both f >>= p.settle
  | alt a b, .alone => fun f =>
    match texts? (alt a b) with
    | some texts => (f.texts (texts.map (bytesOf d))).map (·, false)
    | none => do
      let (f, loops) ← a.layOut d .alone f
      b.layOut d (.second loops) f
  | alt a b, p => fun f => do
    let (f, _) ← a.layOut d p f
    b.layOut d .later f

/-- The start of an automaton: where a match may start anywhere, bytes before it are skipped. -/
def startOf (anchored : Bool) : Option Footprint :=
  if anchored then ({} : Footprint).grow 1 0 0 else ({} : Footprint).grow 3 2 1

/-- The automaton of an expression, with the state that accepts. -/
def footprint (d : Direction) (e : Expr) : Option Footprint :=
  match d with
  | .forwards => do
    let f ← startOf e.startsText
    let (f, _) ← Layout.group d (e.layOut d .alone) f
    f.grow 1 0 0
  | .backwards => do
    let f ← startOf e.endsText
    let (f, loops) ← e.layOut d .alone f
    f.grow 1 loops.alternatives 0

/-- Both automata have room. -/
def fits (e : Expr) : Bool :=
  (e.footprint .forwards).isSome && (e.footprint .backwards).isSome

end Expr
end Pattern
end FeatureScript
