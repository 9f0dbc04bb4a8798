import FeatureScript.Advice.Basic
import FeatureScript.Text.Lines

/-!
# FeatureScript.Proofs.Text.Lines

The lines of a text that is put together.

A text that is empty or ends its last line keeps its lines whatever comes behind it
(`Text.lines_append`). Lines that are written one below the other are read back
(`Text.lines_textOfLines`).
-/

namespace FeatureScript
namespace Text

open Advice (textOfLines)

theorem linesFrom_append (current cs ds : List Char) :
    linesFrom current (cs ++ '\n' :: ds) = linesFrom current (cs ++ ['\n']) ++ lines ds := by
  induction cs generalizing current with
  | nil => simp [linesFrom, lines]
  | cons c rest ih =>
    simp only [List.cons_append, linesFrom]
    split
    · rw [ih, List.cons_append]
    · rw [ih]

/-- A text that ends its last line keeps its lines whatever follows. -/
theorem lines_append {cs : List Char} (h : cs = [] ∨ cs.getLast? = some '\n') (ds : List Char) :
    lines (cs ++ ds) = lines cs ++ lines ds := by
  rcases h with rfl | h
  · rfl
  · obtain ⟨front, rfl⟩ := List.getLast?_eq_some_iff.mp h
    rw [List.append_assoc]
    exact linesFrom_append [] front ds

/-! ## Written lines -/

/-- What stands on one line: there is no `\n` in it, and no `\r` in front of the `\n` behind it. -/
def IsLine (text : String) : Prop := '\n' ∉ text.toList ∧ text.toList.getLast? ≠ some '\r'

instance : DecidablePred IsLine := fun _ => inferInstanceAs (Decidable (_ ∧ _))

theorem linesFrom_of_not_mem {cs : List Char} (h : '\n' ∉ cs) (current rest : List Char) :
    linesFrom current (cs ++ rest) = linesFrom (cs.reverse ++ current) rest := by
  induction cs generalizing current with
  | nil => rfl
  | cons c cs ih =>
    have hc : c ≠ '\n' := (List.ne_of_not_mem_cons h).symm
    rw [List.cons_append, linesFrom, if_neg hc, ih (List.not_mem_of_not_mem_cons h)]
    simp

theorem dropReturn_reverse {cs : List Char} (h : cs.getLast? ≠ some '\r') :
    dropReturn cs.reverse = cs.reverse := by
  rw [← List.head?_reverse] at h
  unfold dropReturn
  split
  · rename_i rest hcs
    rw [hcs] at h
    exact absurd rfl h
  · rfl

/-- A text with no `\n` is one line, if it is anything at all. -/
theorem lines_of_not_mem {cs : List Char} (h : '\n' ∉ cs) :
    lines cs = if cs = [] then [] else [cs] := by
  have hall := linesFrom_of_not_mem h [] []
  rw [List.append_nil, List.append_nil] at hall
  rw [lines, hall, linesFrom]
  simp

/-- The first `\n` ends the first line. -/
theorem lines_of_newline {front : List Char} (h : '\n' ∉ front) (rest : List Char) :
    lines (front ++ '\n' :: rest) = (dropReturn front.reverse).reverse :: lines rest := by
  rw [lines, linesFrom_of_not_mem h, List.append_nil, linesFrom, if_pos rfl, lines]

theorem lines_line {text : String} (h : IsLine text) :
    lines (text ++ "\n").toList = [text.toList] := by
  obtain ⟨hmem, hlast⟩ := h
  rw [String.toList_append, lines, linesFrom_of_not_mem hmem, List.append_nil]
  simp [linesFrom, dropReturn_reverse hlast]

theorem textOfLines_cons (first : String) (rest : List String) :
    textOfLines (first :: rest) = first ++ "\n" ++ textOfLines rest := by
  rw [← String.toList_inj]
  simp [textOfLines, String.toList_join]

theorem textOfLines_append (before after : List String) :
    textOfLines (before ++ after) = textOfLines before ++ textOfLines after := by
  rw [← String.toList_inj]
  simp [textOfLines, String.toList_join]

/-- Written lines end the last of them. -/
theorem textOfLines_ends (ls : List String) :
    textOfLines ls = "" ∨ (textOfLines ls).toList.getLast? = some '\n' := by
  rcases List.eq_nil_or_concat ls with rfl | ⟨front, last, rfl⟩
  · exact .inl rfl
  · right
    rw [List.concat_eq_append, textOfLines_append, textOfLines_cons]
    simp [textOfLines, String.toList_join]

/-- Written lines are read back. -/
theorem lines_textOfLines {ls : List String} (h : ∀ l ∈ ls, IsLine l) :
    lines (textOfLines ls).toList = ls.map String.toList := by
  induction ls with
  | nil => rfl
  | cons first rest ih =>
    obtain ⟨hfirst, hrest⟩ := List.forall_mem_cons.mp h
    rw [textOfLines_cons, String.toList_append, lines_append (.inr (by simp)), lines_line hfirst,
      ih hrest, List.map_cons, List.singleton_append]

end Text
end FeatureScript
