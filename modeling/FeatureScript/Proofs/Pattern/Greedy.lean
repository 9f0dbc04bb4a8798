import FeatureScript.Pattern.Expr
import FeatureScript.Proofs.Grammar.Payload
import FeatureScript.Proofs.Pattern.Backtrack

/-!
# FeatureScript.Proofs.Pattern.Greedy

Backtracking through loops over sets, and through words.

`greedily` takes as many characters of a set as lead on, the most first. It is what a greedy loop
over the set does (`prefer_many`, `prefer_loop`). Where nothing leads on from a character of the
set, it takes them all (`greedily_of_none`).
-/

namespace FeatureScript
namespace Pattern
namespace Regex

section

variable {text : Array Char} {set : CharSet} {k : Matcher}

/-! ## Loops over sets -/

/-- As many characters of the set as lead on, the most first. -/
def greedily (set : CharSet) (k : Matcher) : Matcher
  | [], p, marks => k [] p marks
  | c :: rest, p, marks =>
    if set.has c then (greedily set k rest (p + 1) marks).or (k (c :: rest) p marks)
    else k (c :: rest) p marks

theorem rounds_one {n p : Nat} {rest : List Char} {marks : List Mark} (hn : rest.length < n) :
    rounds true ((one set).prefer text) k n rest p marks = greedily set k rest p marks := by
  induction n generalizing rest p with
  | zero => cases hn
  | succ n ih =>
    cases rest with
    | nil => rfl
    | cons c rest =>
      show choose true (if set.has c then rounds true ((one set).prefer text) k n rest (p + 1) marks
        else none) (k (c :: rest) p marks) = _
      rw [ih (Nat.lt_of_succ_lt_succ hn), greedily]
      split <;> rfl

theorem prefer_many : (many true (one set)).prefer text k = greedily set k := by
  funext rest p marks
  exact rounds_one (Nat.lt_succ_self _)

theorem prefer_loop :
    (loop true (one set)).prefer text k = (one set).prefer text (greedily set k) := by
  funext rest p marks
  cases rest with
  | nil => rfl
  | cons c rest =>
    have hrounds : rounds true ((one set).prefer text) k ((c :: rest).length + 1) rest (p + 1)
        marks = greedily set k rest (p + 1) marks :=
      rounds_one (Nat.lt_succ_of_lt (Nat.lt_succ_self _))
    show (if set.has c then _ else none) = if set.has c then _ else none
    rw [hrounds]

theorem greedily_of_none (h : ∀ c rest p marks, set.has c → k (c :: rest) p marks = none)
    (rest : List Char) (p : Nat) (marks : List Mark) :
    greedily set k rest p marks =
      k (rest.dropWhile set.has) (p + (rest.takeWhile set.has).length) marks := by
  induction rest generalizing p with
  | nil => rfl
  | cons c rest ih =>
    rw [greedily]
    split
    next hc =>
      rw [ih, h c rest p marks hc, Option.or_none, List.dropWhile_cons_of_pos hc,
        List.takeWhile_cons_of_pos hc, List.length_cons, Nat.add_assoc, Nat.add_comm 1]
    next hc => rw [List.dropWhile_cons_of_neg hc, List.takeWhile_cons_of_neg hc]; rfl

end

/-! ## Sequences, choices and words -/

theorem prefer_seqAll (text : Array Char) (rs : List Regex) (k : Matcher) :
    (seqAll rs).prefer text k = rs.foldr (fun r k => r.prefer text k) k := by
  induction rs with
  | nil => rfl
  | cons r rs ih =>
    rw [List.foldr_cons, ← ih]
    cases rs <;> rfl

/-- Letters one after the other, each standing for a set. -/
theorem prefer_word {text : Array Char} (set : Char → CharSet) (word : List Char) (k : Matcher)
    (rest : List Char) (p : Nat) (marks : List Mark) :
    (seqAll (word.map fun w => one (set w))).prefer text k rest p marks =
      (Grammar.dropWord? (fun w c => (set w).has c) word rest).bind fun left =>
        k left (p + word.length) marks := by
  induction word generalizing rest p with
  | nil => rfl
  | cons w word ih =>
    have hcons : (seqAll ((w :: word).map fun w => one (set w))).prefer text k rest p marks =
        (one (set w)).prefer text ((seqAll (word.map fun w => one (set w))).prefer text k)
          rest p marks := by
      cases word <;> rfl
    rw [hcons]
    cases rest with
    | nil => rfl
    | cons c rest =>
      show (if (set w).has c then _ else none) = _
      rw [ih, Grammar.dropWord?, List.length_cons, Nat.add_assoc, Nat.add_comm 1]
      split <;> rfl

end Regex

theorem Expr.regex_ofItems (es : List Expr) : (ofItems es).regex = .seqAll (es.map regex) := by
  induction es with
  | nil => rfl
  | cons e es ih =>
    cases es with
    | nil => rfl
    | cons d es => exact congrArg (Regex.seq e.regex) ih

theorem Expr.prefer_ofBranches (text : Array Char) (es : List Expr) (k : Matcher) (rest : List Char)
    (p : Nat) (marks : List Mark) : (ofBranches es).regex.prefer text k rest p marks =
      es.findSome? fun e => e.regex.prefer text k rest p marks := by
  induction es with
  | nil => cases rest <;> rfl
  | cons e es ih =>
    have hcons : (ofBranches (e :: es)).regex.prefer text k rest p marks =
        (e.regex.prefer text k rest p marks).or
          ((ofBranches es).regex.prefer text k rest p marks) := by
      cases es with
      | nil => rw [ih, List.findSome?_nil, Option.or_none]; rfl
      | cons d es => rfl
    rw [hcons, ih, List.findSome?_cons]
    cases e.regex.prefer text k rest p marks <;> rfl

end Pattern
end FeatureScript
