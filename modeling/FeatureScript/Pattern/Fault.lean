import FeatureScript.Unicode.Blank

/-!
# FeatureScript.Pattern.Fault

What the readers of patterns share: the reasons to reject a pattern, the flags that change how the
rest of a pattern is read, and the white space of verbose patterns.

Flags are set in groups (`(?i)`, `(?i-s:…)`): `i` folds case, `m` lets `^` and `$` match at lines,
`s` lets `.` match `\n`, `U` swaps greedy and lazy, `x` skips white space and comments, `R` lets
`\r` end lines too. Text is always a sequence of characters: `u` may be set and not be cleared.
-/

namespace FeatureScript
namespace Pattern

/-- Why a pattern is rejected. -/
inductive Fault where
  | unclosedGroup
  | unopenedGroup
  | unclosedClass
  | badClass
  | badRange
  | nothingToRepeat
  | badCount
  | badEscape
  | badGroupName
  | badFlags
  | lookaround
  | backreference
  | tooDeep
  | tooLarge
  deriving DecidableEq, Repr

structure Flags where
  folding : Bool := false
  lines : Bool := false
  dotAll : Bool := false
  lazy : Bool := false
  verbose : Bool := false
  returns : Bool := false
  deriving DecidableEq, Repr, Inhabited

/-- A read result with the text after it. -/
abbrev Read (α : Type) := Except Fault (α × List Char)

/-- The flags with one of them set or cleared. -/
def Flags.set (flags : Flags) (c : Char) (on : Bool) : Option Flags :=
  match c with
  | 'i' => some { flags with folding := on }
  | 'm' => some { flags with lines := on }
  | 's' => some { flags with dotAll := on }
  | 'U' => some { flags with lazy := on }
  | 'x' => some { flags with verbose := on }
  | 'R' => some { flags with returns := on }
  | 'u' => if on then some flags else none
  | _ => none

namespace Reader

open Unicode

/-- The text after white space and comments. -/
def skipComments (inComment : Bool) : List Char → List Char
  | [] => []
  | c :: rest =>
    if inComment then skipComments (c != '\n') rest
    else if isBlank c then skipComments false rest
    else if c = '#' then skipComments true rest
    else c :: rest

/-- In verbose patterns, white space and comments are skipped. -/
def skip (verbose : Bool) (cs : List Char) : List Char :=
  if verbose then skipComments false cs else cs

end Reader
end Pattern
end FeatureScript
