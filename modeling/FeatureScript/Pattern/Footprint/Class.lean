import FeatureScript.Pattern.CharSet
import FeatureScript.Pattern.Footprint.Basic
import FeatureScript.Pattern.Footprint.Sharing
import FeatureScript.Text.Utf8

/-!
# FeatureScript.Pattern.Footprint.Class

The room of a set of characters in an automaton that reads bytes. What is added for a set depends on
the number of its first state, since states are shared by way of a table of their numbers.
-/

namespace FeatureScript
namespace Pattern

open Text

/-- A set in the making. -/
structure SetLayout where
  footprint : Footprint
  shared : Shared

/-! ## Forwards -/

/-- A range of bytes and the state it leads to. -/
structure Arc where
  range : ByteRange
  next : Nat

/-- A state on the way to the last byte that was added: the arcs whose states are complete, the last
one first, and the range of the arc that is not. -/
structure OpenState where
  arcs : List Arc
  last : ByteRange

namespace SetLayout

def arcKey (a : Arc) : List Nat := [a.range.first, a.range.last, a.next]

/-- A state with these arcs, the last one first: one that is remembered, or a new one. -/
def state (l : SetLayout) (arcs : List Arc) : Nat × SetLayout :=
  let key := arcs.reverse.flatMap arcKey
  match l.shared.find? key with
  | some found => (found, l)
  | none =>
    let f := l.footprint
    (f.states,
      { footprint := f.add 1 0 arcs.length, shared := l.shared.insert key f.states })

/-- Completes the states of a way, the deepest first. The deepest leads to `target`. -/
def complete (target : Nat) (l : SetLayout) : List OpenState → Nat × SetLayout
  | [] => (target, l)
  | o :: deeper =>
    let (next, l) := complete target l deeper
    l.state (⟨o.last, next⟩ :: o.arcs)

/-- Adds a sequence that comes after those that were added. The states that it has in common with
the last of them stay open. -/
def extend (target : Nat) (l : SetLayout) : List OpenState → List ByteRange →
    List OpenState × SetLayout
  | o :: deeper, r :: rest =>
    if o.last = r then
      let (deeper, l) := extend target l deeper rest
      (o :: deeper, l)
    else
      let (next, l) := complete target l deeper
      (⟨⟨o.last, next⟩ :: o.arcs, r⟩ :: rest.map (⟨[], ·⟩), l)
  | _, rest => (rest.map (⟨[], ·⟩), l)

end SetLayout

/-- Adds a set to an automaton that reads forwards. The state it leaves to comes first. -/
def CharSet.forwards (s : CharSet) (f : Footprint) : Footprint :=
  let start : SetLayout :=
    { footprint := f.add 1 0 0, shared := { slots := 10000 } }
  let (way, l) := (byteRanges s.ranges).foldl
    (fun (way, l) bytes => l.extend f.states way bytes) ([], start)
  (l.complete f.states way).2.footprint

/-! ## Backwards -/

/-- Adds the states of a sequence, from its first byte, which leads to `target`, to its last. -/
def SetLayout.chain (l : SetLayout) (target : Nat) : List ByteRange → SetLayout
  | [] => l
  | r :: rest =>
    let key := [target, r.first, r.last]
    match l.shared.find? key with
    | some found => l.chain found rest
    | none =>
      let f := l.footprint
      let l : SetLayout :=
        { footprint := f.add 1 0 0, shared := l.shared.insert key f.states }
      l.chain f.states rest

/-- Adds a set to an automaton that reads backwards: a choice among the sequences of the set. The
choice comes first, and then the state it leaves to. -/
def CharSet.backwards (s : CharSet) (f : Footprint) : Footprint :=
  let start : SetLayout :=
    { footprint := f.add 2 0 0, shared := { slots := 1000 } }
  let l := (byteRanges s.ranges).foldl
    (fun l bytes =>
      let l := l.chain (f.states + 1) bytes
      { l with footprint := l.footprint.add 0 1 0 })
    start
  l.footprint

/-! ## Both ways -/

/-- The way an automaton reads. -/
inductive Direction where
  | forwards
  | backwards
  deriving DecidableEq, Repr

/-- All characters of the set are ASCII characters. -/
def CharSet.isAscii (s : CharSet) : Bool := s.ranges.all fun r => decide (r.2 < 0x80)

/-- Adds a set to an automaton. ASCII characters need one state and the state it leaves to. -/
def CharSet.layOut (d : Direction) (s : CharSet) (f : Footprint) : Option Footprint :=
  if s.isAscii then f.grow 2 0 s.ranges.length
  else
    match d with
    | .forwards => (s.forwards f).checked
    | .backwards => (s.backwards f).checked

end Pattern
end FeatureScript
