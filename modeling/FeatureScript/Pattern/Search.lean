import FeatureScript.Pattern.Program

/-!
# FeatureScript.Pattern.Search

Searching a text with a program, in order of preference.

A thread is a state of the program at a position of the text, with the group marks it has made. The
threads are tried depth first, the preferred successor first, beginning with the starts at each
position from left to right. A state is entered at most once at each position: what it can reach
has then been tried already, or is being tried. So a repetition whose round matched nothing does not
go round again.
-/

namespace FeatureScript
namespace Pattern

open Unicode

/-- The start or the end of a group. -/
structure Mark where
  group : Nat
  opens : Bool
  position : Nat
  deriving DecidableEq, Repr

structure Thread where
  state : Nat
  position : Nat
  /-- The marks made on the way, the last one first. -/
  marks : List Mark
  deriving Repr

/-- The character before a position. -/
def before? (text : Array Char) (position : Nat) : Option Char :=
  if position = 0 then none else text[position - 1]?

def wordBefore (text : Array Char) (position : Nat) : Bool := (before? text position).any isWord

def wordAfter (text : Array Char) (position : Nat) : Bool := text[position]?.any isWord

/-- The assertion holds at the position. -/
def Assertion.holds (text : Array Char) (position : Nat) : Assertion → Bool
  | .textStart => position == 0
  | .textEnd => position == text.size
  | .lineStart => position == 0 || before? text position == some '\n'
  | .lineEnd => position == text.size || text[position]? == some '\n'
  | .returnLineStart =>
    position == 0 || before? text position == some '\n' ||
      (before? text position == some '\r' && text[position]? != some '\n')
  | .returnLineEnd =>
    position == text.size || text[position]? == some '\r' ||
      (text[position]? == some '\n' && before? text position != some '\r')
  | .wordBoundary => wordBefore text position != wordAfter text position
  | .notWordBoundary => wordBefore text position == wordAfter text position
  | .wordStart => !wordBefore text position && wordAfter text position
  | .wordEnd => wordBefore text position && !wordAfter text position
  | .notAfterWord => !wordBefore text position
  | .notBeforeWord => !wordAfter text position

/-- The threads that go on from a thread, the preferred one first. -/
def successors (program : Array Instr) (text : Array Char) (t : Thread) : List Thread :=
  match program[t.state]? with
  | some (.one set next) =>
    match text[t.position]? with
    | some c => if set.has c then [⟨next, t.position + 1, t.marks⟩] else []
    | none => []
  | some (.assert a next) => if a.holds text t.position then [{ t with state := next }] else []
  | some (.mark group opens next) =>
    [{ t with state := next, marks := ⟨group, opens, t.position⟩ :: t.marks }]
  | some (.split first second) => [{ t with state := first }, { t with state := second }]
  | some (.jump next) => [{ t with state := next }]
  | some .accept | none => []

/-- Runs the threads of a stack. `visited` says, for every position and every state at it, whether
the state was entered there. Each round drops a thread or enters a state, so the rounds are bounded
by the threads and twice the entries that are left. -/
def run (program : Array Instr) (text : Array Char) :
    (fuel : Nat) → (visited : Array Bool) → List Thread → Option (List Mark)
  | 0, _, _ => none
  | _ + 1, _, [] => none
  | fuel + 1, visited, t :: stack =>
    let key := t.position * program.size + t.state
    if visited[key]?.getD true then run program text fuel visited stack
    else match program[t.state]? with
      | some .accept => some t.marks
      | _ => run program text fuel (visited.setIfInBounds key true)
          (successors program text t ++ stack)

/-- The marks of the preferred match in a text. -/
def search (program : Array Instr) (text : Array Char) : Option (List Mark) :=
  let entries := program.size * (text.size + 1)
  run program text (2 * entries + (text.size + 1) + 1) (Array.replicate entries false)
    ((List.range (text.size + 1)).map fun position => ⟨0, position, []⟩)

/-- The part of the text that a group matched last. -/
def spanOf? (marks : List Mark) (group : Nat) : Option (Nat × Nat) :=
  match marks.find? (fun m => m.group == group && m.opens),
    marks.find? (fun m => m.group == group && !m.opens) with
  | some first, some last => some (first.position, last.position)
  | _, _ => none

end Pattern
end FeatureScript
