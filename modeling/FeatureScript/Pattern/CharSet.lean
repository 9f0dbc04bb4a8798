import FeatureScript.Unicode.Blank
import FeatureScript.Unicode.Case
import FeatureScript.Unicode.Word

/-!
# FeatureScript.Pattern.CharSet

Sets of characters, as character classes describe them.
-/

namespace FeatureScript
namespace Pattern

open Unicode

structure CharSet where
  ranges : Ranges
  deriving DecidableEq, Repr, Inhabited

namespace CharSet

def has (s : CharSet) (c : Char) : Bool := s.ranges.has c.toNat

def none : CharSet := ⟨[]⟩

def single (c : Char) : CharSet := ⟨[(c.toNat, c.toNat)]⟩

def range (first last : Char) : CharSet := ⟨[(first.toNat, last.toNat)]⟩

def digit : CharSet := ⟨digitRanges⟩

def blank : CharSet := ⟨blankRanges⟩

def word : CharSet := ⟨wordRanges⟩

def union (a b : CharSet) : CharSet := ⟨a.ranges.union b.ranges⟩

def compl (a : CharSet) : CharSet := ⟨a.ranges.compl⟩

def inter (a b : CharSet) : CharSet := ⟨a.ranges.inter b.ranges⟩

def diff (a b : CharSet) : CharSet := inter a (compl b)

/-- With every character, all that differ from it only in case. -/
def folded (a : CharSet) : CharSet := ⟨a.ranges.folded⟩

/-- Every character. -/
def any : CharSet := compl none

/-- The characters in exactly one of two sets. -/
def symmDiff (a b : CharSet) : CharSet := union (diff a b) (diff b a)

/-- The character of a set that has just one. -/
def only? (s : CharSet) : Option Char :=
  match s.ranges with
  | [(first, last)] => if first = last then some (Char.ofNat first) else .none
  | _ => .none

def complIf (negated : Bool) (a : CharSet) : CharSet := if negated then compl a else a

def foldIf (folding : Bool) (a : CharSet) : CharSet := if folding then folded a else a

/-- The union of the ranges. -/
def ofRanges (ranges : List (Char × Char)) : CharSet :=
  ranges.foldr (fun r s => union (range r.1 r.2) s) none

/-- The classes of ASCII characters that have names. -/
def named? (name : String) : Option CharSet :=
  (([("alnum", [('0', '9'), ('A', 'Z'), ('a', 'z')]),
    ("alpha", [('A', 'Z'), ('a', 'z')]),
    ("ascii", [('\x00', '\x7f')]),
    ("blank", [('\t', '\t'), (' ', ' ')]),
    ("cntrl", [('\x00', '\x1f'), ('\x7f', '\x7f')]),
    ("digit", [('0', '9')]),
    ("graph", [('!', '~')]),
    ("lower", [('a', 'z')]),
    ("print", [(' ', '~')]),
    ("punct", [('!', '/'), (':', '@'), ('[', '\x60'), ('\x7b', '~')]),
    ("space", [('\t', '\r'), (' ', ' ')]),
    ("upper", [('A', 'Z')]),
    ("word", [('0', '9'), ('A', 'Z'), ('_', '_'), ('a', 'z')]),
    ("xdigit", [('0', '9'), ('A', 'F'), ('a', 'f')])] : List (String × List (Char × Char))).lookup
      name).map ofRanges

end CharSet
end Pattern
end FeatureScript
