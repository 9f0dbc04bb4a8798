import FeatureScript.Pattern.Fault
import FeatureScript.Pattern.Regex

/-!
# FeatureScript.Pattern.Escape

What a backslash and the text behind it stand for: a character, a set of characters or an assertion.
Before ASCII punctuation a backslash only takes away its meaning; before a letter it gives one.
-/

namespace FeatureScript
namespace Pattern
namespace Reader

open Unicode

def hexValue? (c : Char) : Option Nat :=
  if '0' ≤ c ∧ c ≤ '9' then some (c.toNat - '0'.toNat)
  else if 'a' ≤ c ∧ c ≤ 'f' then some (c.toNat - 'a'.toNat + 10)
  else if 'A' ≤ c ∧ c ≤ 'F' then some (c.toNat - 'A'.toNat + 10)
  else none

/-- The character with this code point, unless there is none. -/
def charOf? (n : Nat) : Option Char := if n.isValidChar then some (Char.ofNat n) else none

/-- A character from exactly `count` hexadecimal digits. -/
def hexFixed (verbose : Bool) : (count value : Nat) → List Char → Read Char
  | 0, value, cs =>
    match charOf? value with
    | some c => .ok (c, cs)
    | none => .error .badEscape
  | _ + 1, _, [] => .error .badEscape
  | count + 1, value, c :: rest =>
    match hexValue? c with
    | some d => hexFixed verbose count (value * 16 + d) (skip verbose rest)
    | none => .error .badEscape

/-- A character from the hexadecimal digits up to a closing brace, `digits` being those read so far
from the last to the first. -/
def hexBraced (verbose : Bool) (fuel : Nat) (digits : List Nat) (cs : List Char) : Read Char :=
  match fuel, skip verbose cs with
  | fuel + 1, c :: rest =>
    if c = '\x7d' then
      match digits with
      | [] => .error .badEscape
      | _ =>
        match charOf? (digits.foldr (fun d n => n * 16 + d) 0) with
        | some found => .ok (found, rest)
        | none => .error .badEscape
    else
      match hexValue? c with
      | some d => hexBraced verbose fuel (d :: digits) rest
      | none => .error .badEscape
  | _, _ => .error .badEscape

/-- A character by its code point, after the letter that gives the number of digits. -/
def hexEscape (verbose : Bool) (count : Nat) (cs : List Char) : Read Char :=
  match skip verbose cs with
  | '\x7b' :: rest => hexBraced verbose rest.length [] rest
  | cs => hexFixed verbose count 0 cs

/-- What one item of a pattern stands for. -/
inductive Atom where
  | char (c : Char)
  | set (s : CharSet)
  | assert (a : Assertion)

/-- A backslash before such a character stands for the character. -/
def isEscapable (c : Char) : Bool :=
  decide (c.toNat < 128) && !c.isAlphanum && c != '<' && c != '>'

def isBoundaryLetter (c : Char) : Bool := c.isAlpha || c == '-'

/-- A word boundary, after the `b` that names it. A word in braces chooses one side of it; any other
brace opens a count. -/
def boundary (verbose : Bool) (cs : List Char) : Read Atom :=
  match cs with
  | '\x7b' :: rest =>
    match skip verbose rest with
    | [] => .error .badEscape
    | inner@(c :: _) =>
      if isBoundaryLetter c then
        let isPart := fun c => isBoundaryLetter c || (verbose && isBlank c)
        let name := String.ofList ((inner.takeWhile isPart).filter isBoundaryLetter)
        match inner.dropWhile isPart with
        | '\x7d' :: rest =>
          match ([("start", Assertion.wordStart), ("end", .wordEnd),
              ("start-half", .notAfterWord), ("end-half", .notBeforeWord)] :
              List (String × Assertion)).lookup name with
          | some a => .ok (.assert a, rest)
          | none => .error .badEscape
        | _ => .error .badEscape
      else .ok (.assert .wordBoundary, cs)
  | _ => .ok (.assert .wordBoundary, cs)

/-- What a backslash and the text after it stand for. -/
def escape (verbose : Bool) : List Char → Read Atom
  | [] => .error .badEscape
  | c :: rest =>
    if c.isDigit then .error .backreference
    else if isEscapable c then .ok (.char c, rest)
    else match c with
      | 'x' => (hexEscape verbose 2 rest).map fun (c, rest) => (.char c, rest)
      | 'u' => (hexEscape verbose 4 rest).map fun (c, rest) => (.char c, rest)
      | 'U' => (hexEscape verbose 8 rest).map fun (c, rest) => (.char c, rest)
      | 'd' => .ok (.set .digit, rest)
      | 'D' => .ok (.set (.compl .digit), rest)
      | 's' => .ok (.set .blank, rest)
      | 'S' => .ok (.set (.compl .blank), rest)
      | 'w' => .ok (.set .word, rest)
      | 'W' => .ok (.set (.compl .word), rest)
      | 'a' => .ok (.char '\x07', rest)
      | 'f' => .ok (.char '\x0c', rest)
      | 't' => .ok (.char '\t', rest)
      | 'n' => .ok (.char '\n', rest)
      | 'r' => .ok (.char '\r', rest)
      | 'v' => .ok (.char '\x0b', rest)
      | 'A' => .ok (.assert .textStart, rest)
      | 'z' => .ok (.assert .textEnd, rest)
      | 'b' => boundary verbose rest
      | 'B' => .ok (.assert .notWordBoundary, rest)
      | '<' => .ok (.assert .wordStart, rest)
      | '>' => .ok (.assert .wordEnd, rest)
      | _ => .error .badEscape

end Reader
end Pattern
end FeatureScript
