import FeatureScript.Text.Split

/-!
# FeatureScript.Proofs.Text.Split

The parts of a list between separators.

A list that is joined from two by a separator has the parts of both (`split_append`). Put together,
the parts are the list without its separators (`flatten_split`), or the list itself where each part
gets its separator back (`flatMap_split`).
-/

namespace FeatureScript
namespace Text

variable {α : Type} [DecidableEq α] {separator : α}

theorem splitFrom_append (current xs ys : List α) :
    splitFrom separator current (xs ++ separator :: ys) =
      splitFrom separator current xs ++ split separator ys := by
  induction xs generalizing current with
  | nil => simp [splitFrom, split]
  | cons x rest ih =>
    rw [List.cons_append, splitFrom, splitFrom]
    split
    · rw [ih, List.cons_append]
    · rw [ih]

theorem split_append (xs ys : List α) :
    split separator (xs ++ separator :: ys) = split separator xs ++ split separator ys :=
  splitFrom_append [] xs ys

theorem splitFrom_of_not_mem {xs : List α} (h : separator ∉ xs) (current : List α) :
    splitFrom separator current xs = [current.reverse ++ xs] := by
  induction xs generalizing current with
  | nil => simp [splitFrom]
  | cons x rest ih =>
    obtain ⟨hx, hrest⟩ := not_or.mp (fun hmem => h (List.mem_cons.mpr hmem))
    rw [splitFrom, if_neg fun heq => hx heq.symm, ih hrest]
    simp

theorem split_of_not_mem {xs : List α} (h : separator ∉ xs) : split separator xs = [xs] :=
  splitFrom_of_not_mem h []

theorem flatten_splitFrom (current xs : List α) :
    (splitFrom separator current xs).flatten =
      current.reverse ++ xs.filter (fun x => decide (x ≠ separator)) := by
  induction xs generalizing current with
  | nil => simp [splitFrom]
  | cons x rest ih =>
    unfold splitFrom
    split
    next h => simp [h, ih]
    next h => simp [h, ih]

theorem flatten_split (xs : List α) :
    (split separator xs).flatten = xs.filter (fun x => decide (x ≠ separator)) :=
  flatten_splitFrom [] xs

theorem flatMap_splitFrom (current xs : List α) :
    (splitFrom separator current xs).flatMap (· ++ [separator]) =
      current.reverse ++ xs ++ [separator] := by
  induction xs generalizing current with
  | nil => simp [splitFrom]
  | cons x rest ih =>
    unfold splitFrom
    split
    next h => simp [h, ih]
    next => simp [ih]

theorem flatMap_split (xs : List α) :
    (split separator xs).flatMap (· ++ [separator]) = xs ++ [separator] :=
  flatMap_splitFrom [] xs

end Text
end FeatureScript
