import FeatureScript.Pattern.Escape

/-!
# FeatureScript.Pattern.CharClass

Character classes in brackets. Items, ranges and classes inside form a union; `&&`, `--` and `~~`
stand between unions and work from left to right. Closing and opening brackets are items in first
place and behind a backslash, hyphens in first and in last place.
-/

namespace FeatureScript
namespace Pattern
namespace Reader

inductive SetOp where
  | inter
  | diff
  | symmDiff

def SetOp.apply : SetOp → CharSet → CharSet → CharSet
  | .inter, a, b => .inter a b
  | .diff, a, b => .diff a b
  | .symmDiff, a, b => a.symmDiff b

/-- A set with how deep classes, unions and operations are nested in it. -/
structure NestedSet where
  set : CharSet
  depth : Nat := 0

/-- A class being read: the left side of an operation waiting for its right side, and the items read
since. -/
structure ClassLevel where
  negated : Bool
  left : Option (SetOp × NestedSet) := none
  items : CharSet := .none
  /-- The number of the items, and the greatest of their depths. -/
  count : Nat := 0
  depth : Nat := 0

namespace ClassLevel

def add (l : ClassLevel) (s : NestedSet) : ClassLevel :=
  { l with items := .union l.items s.set, count := l.count + 1, depth := Nat.max l.depth s.depth }

/-- The items together. -/
def union (l : ClassLevel) : NestedSet :=
  { set := l.items, depth := if l.count ≤ 1 then l.depth else l.depth + 1 }

/-- The set so far; an operation folds both of its sides. -/
def value (folding : Bool) (l : ClassLevel) : NestedSet :=
  match l.left with
  | some (op, a) =>
    { set := op.apply (a.set.foldIf folding) (l.items.foldIf folding)
      depth := Nat.max a.depth l.union.depth + 1 }
  | none => l.union

def close (folding : Bool) (l : ClassLevel) : NestedSet :=
  let v := l.value folding
  { set := (v.set.foldIf folding).complIf l.negated, depth := v.depth + 1 }

def operate (folding : Bool) (l : ClassLevel) (op : SetOp) : ClassLevel :=
  { negated := l.negated, left := some (op, l.value folding) }

end ClassLevel

/-- Hyphens at the start of a class are items. -/
def leadingHyphens (verbose : Bool) (fuel : Nat) (l : ClassLevel) (cs : List Char) :
    ClassLevel × List Char :=
  match fuel, cs with
  | fuel + 1, '-' :: rest =>
    leadingHyphens verbose fuel (l.add ⟨.single '-', 0⟩) (skip verbose rest)
  | _, cs => (l, cs)

/-- The start of a class, after its bracket: a caret, hyphens, and, if there are none, a bracket
that is an item. -/
def openClass (verbose : Bool) (cs : List Char) : ClassLevel × List Char :=
  let (negated, cs) := match skip verbose cs with
    | '^' :: rest => (true, skip verbose rest)
    | cs => (false, cs)
  match leadingHyphens verbose cs.length { negated } cs with
  | (l, ']' :: rest) =>
    if cs.head? = some '-' then (l, ']' :: rest) else (l.add ⟨.single ']', 0⟩, skip verbose rest)
  | found => found

/-- A class of ASCII characters by name, `[:name:]` or `[:^name:]`, after its first bracket. -/
def namedClass? (folding : Bool) (cs : List Char) : Option (CharSet × List Char) :=
  match cs with
  | ':' :: rest =>
    let (negated, rest) := match rest with
      | '^' :: rest => (true, rest)
      | rest => (false, rest)
    match rest.dropWhile (· != ':') with
    | ':' :: ']' :: after =>
      (CharSet.named? (String.ofList (rest.takeWhile (· != ':')))).map fun s =>
        ((s.foldIf folding).complIf negated, after)
    | _ => none
  | _ => none

/-- One item of a class, which may be the start of a range. -/
def classItem (verbose : Bool) : List Char → Read Atom
  | '\\' :: rest => escape verbose rest
  | c :: rest => .ok (.char c, rest)
  | [] => .error .unclosedClass

/-- The text of the second end of a range, if a range goes on after its first end. -/
def rangeEnd? (verbose : Bool) (cs : List Char) : Option (List Char) :=
  match cs with
  | '-' :: after =>
    match skip verbose after with
    | [] | ']' :: _ | '-' :: _ => none
    | after => some after
  | _ => none

/-- An item or a range of items. -/
def classRange (verbose : Bool) (cs : List Char) : Read CharSet :=
  match classItem verbose cs with
  | .error e => .error e
  | .ok (first, rest) =>
    let rest := skip verbose rest
    match rangeEnd? verbose rest with
    | some after =>
      match classItem verbose after with
      | .error e => .error e
      | .ok (last, rest) =>
        match first, last with
        | .char a, .char b => if a ≤ b then .ok (.range a b, rest) else .error .badRange
        | _, _ => .error .badRange
    | none =>
      match first with
      | .char c => .ok (.single c, rest)
      | .set s => .ok (s, rest)
      | .assert _ => .error .badClass

/-- One round inside a class: the levels open around the innermost one, and the innermost one. The
result is the new levels or, when the outermost class is closed, its set. -/
def classStep (flags : Flags) (outer : List ClassLevel) (l : ClassLevel) (cs : List Char) :
    Read (NestedSet ⊕ (List ClassLevel × ClassLevel)) :=
  match cs with
  | '[' :: rest =>
    match namedClass? flags.folding rest with
    | some (s, rest) => .ok (.inr (outer, l.add ⟨s, 0⟩), rest)
    | none =>
      let (inner, rest) := openClass flags.verbose rest
      .ok (.inr (l :: outer, inner), rest)
  | ']' :: rest =>
    match outer with
    | [] => .ok (.inl (l.close flags.folding), rest)
    | around :: outer => .ok (.inr (outer, around.add (l.close flags.folding)), rest)
  | '&' :: '&' :: rest => .ok (.inr (outer, l.operate flags.folding .inter), rest)
  | '-' :: '-' :: rest => .ok (.inr (outer, l.operate flags.folding .diff), rest)
  | '~' :: '~' :: rest => .ok (.inr (outer, l.operate flags.folding .symmDiff), rest)
  | cs => (classRange flags.verbose cs).map fun (s, rest) => (.inr (outer, l.add ⟨s, 0⟩), rest)

/-- The rest of a class. -/
def classRest (flags : Flags) (fuel : Nat) (outer : List ClassLevel) (l : ClassLevel)
    (cs : List Char) : Read NestedSet :=
  match fuel, skip flags.verbose cs with
  | 0, _ | _, [] => .error .unclosedClass
  | fuel + 1, cs =>
    match classStep flags outer l cs with
    | .error e => .error e
    | .ok (.inl s, rest) => .ok (s, rest)
    | .ok (.inr (outer, l), rest) => classRest flags fuel outer l rest

/-- A class, after its bracket. -/
def readClass (flags : Flags) (cs : List Char) : Read NestedSet :=
  let (l, rest) := openClass flags.verbose cs
  classRest flags (cs.length + 1) [] l rest

end Reader
end Pattern
end FeatureScript
