/-!
# FeatureScript.Pattern.Footprint.Basic

How much room automata take. An automaton has states of one size, and some states hold more: a
choice holds its alternatives, and a state that tells bytes apart holds their ranges.
-/

namespace FeatureScript
namespace Pattern

/-- The room of an automaton that is being laid out. Its states are numbered as they come, so
`states` is the number of the next one. -/
structure Footprint where
  states : Nat := 0
  /-- The bytes that states hold besides their own. -/
  held : Nat := 0
  deriving DecidableEq, Repr, Inhabited

namespace Footprint

/-- Bytes of a state. -/
def stateSize : Nat := 32

/-- Bytes of an alternative that a choice holds. -/
def alternativeSize : Nat := 4

/-- Bytes of a range of bytes that a state holds. -/
def arcSize : Nat := 8

def bytes (f : Footprint) : Nat := f.states * stateSize + f.held

/-- No automaton may take more than 10 MiB. -/
def limit : Nat := 10485760

/-- With more states, alternatives and ranges. -/
def add (f : Footprint) (states alternatives arcs : Nat) : Footprint :=
  { states := f.states + states
    held := f.held + (alternatives * alternativeSize + arcs * arcSize) }

/-- The footprint itself, unless it is too large. -/
def checked (f : Footprint) : Option Footprint := if f.bytes ≤ limit then some f else none

def grow (f : Footprint) (states alternatives arcs : Nat) : Option Footprint :=
  (f.add states alternatives arcs).checked

end Footprint
end Pattern
end FeatureScript
