import FeatureScript.Line
import FeatureScript.Proofs.Text.Lines
import FeatureScript.Script.Interpreter

/-!
# FeatureScript.Proofs.Script.LineEnds

Scripts that differ in the ends of their lines.

`Text.Joins` says that a text is made of some lines, each with an end of either kind, where the last
line may go without one. A line is taken off the front of a text just as it was put there
(`Text.lines_eq_cons_iff`), so the texts with given lines are those that join them
(`Text.joins_iff`). `script_reads_back`: the lines of such a script are numbered from one, and a
run does not depend on their ends.
-/

namespace FeatureScript
namespace Text

/-- What ends a line. -/
inductive LineEnd where
  | newline
  | returnNewline
  deriving DecidableEq, Repr

def LineEnd.text : LineEnd → String
  | .newline => "\n"
  | .returnNewline => "\r\n"

/-- The text has these lines one below the other. Each has an end of its own choice; the last one
may go without, if there is anything on it. -/
inductive Joins : List String → String → Prop
  | nothing : Joins [] ""
  | unended {line : String} : line ≠ "" → Joins [line] line
  | ended {line : String} {rest : List String} {text : String} (e : LineEnd) :
      Joins rest text → Joins (line :: rest) (line ++ e.text ++ text)

theorem lines_eq_nil_iff {cs : List Char} : lines cs = [] ↔ cs = [] := by
  constructor
  · intro h
    by_cases hmem : '\n' ∈ cs
    · obtain ⟨front, rest, rfl, hfront⟩ := List.eq_append_cons_of_mem hmem
      rw [lines_of_newline hfront] at h
      cases h
    · rw [lines_of_not_mem hmem] at h
      split at h
      next hcs => exact hcs
      next => cases h
  · rintro rfl
    rfl

/-- What is left of a line without the carriage return in front of its end. -/
theorem dropReturn_reverse_eq {front line : List Char} (h : line.getLast? ≠ some '\r') :
    (dropReturn front.reverse).reverse = line ↔ front = line ∨ front = line ++ ['\r'] := by
  constructor
  · intro hdrop
    unfold dropReturn at hdrop
    split at hdrop
    next rest hfront =>
      rw [List.reverse_eq_cons_iff, hdrop] at hfront
      exact .inr hfront
    next => exact .inl (List.reverse_reverse front ▸ hdrop)
  · rintro (rfl | rfl)
    · rw [dropReturn_reverse h, List.reverse_reverse]
    · rw [List.reverse_append, List.reverse_singleton, List.singleton_append, dropReturn,
        List.reverse_reverse]

/-- A text begins with a line just if the line stands there with one of its ends, or alone. -/
theorem lines_eq_cons_iff {line : String} (h : IsLine line) (cs : List Char)
    (rest : List (List Char)) :
    lines cs = line.toList :: rest ↔
      (cs = line.toList ∧ line ≠ "" ∧ rest = []) ∨
        ∃ (e : LineEnd) (after : List Char),
          cs = line.toList ++ e.text.toList ++ after ∧ rest = lines after := by
  obtain ⟨hnewline, hreturn⟩ := h
  constructor
  · intro hlines
    by_cases hmem : '\n' ∈ cs
    · obtain ⟨front, after, rfl, hfront⟩ := List.eq_append_cons_of_mem hmem
      rw [lines_of_newline hfront] at hlines
      obtain ⟨hline, rfl⟩ := List.cons.inj hlines
      rcases (dropReturn_reverse_eq hreturn).mp hline with rfl | rfl
      · exact .inr ⟨.newline, after, by simp [LineEnd.text], rfl⟩
      · exact .inr ⟨.returnNewline, after, by simp [LineEnd.text], rfl⟩
    · rw [lines_of_not_mem hmem] at hlines
      split at hlines
      next => cases hlines
      next hcs =>
        obtain ⟨rfl, rfl⟩ := List.cons.inj hlines
        exact .inl ⟨rfl, fun hempty => hcs (by rw [hempty]; rfl), rfl⟩
  · rintro (⟨rfl, hempty, rfl⟩ | ⟨e, after, rfl, rfl⟩)
    · rw [lines_of_not_mem hnewline, if_neg (by simpa using hempty)]
    · -- the front is what stands before the `\n`, with the carriage return of the end
      obtain ⟨front, hfront, hends⟩ : ∃ front,
          line.toList ++ e.text.toList = front ++ ['\n'] ∧
            (front = line.toList ∨ front = line.toList ++ ['\r']) := by
        cases e with
        | newline => exact ⟨_, rfl, .inl rfl⟩
        | returnNewline => exact ⟨_, by simp [LineEnd.text], .inr rfl⟩
      have hmem : '\n' ∉ front := by rcases hends with rfl | rfl <;> simpa using hnewline
      rw [hfront, List.append_assoc, List.singleton_append, lines_of_newline hmem,
        (dropReturn_reverse_eq hreturn).mpr hends]

/-- The texts with given lines are those that join them. -/
theorem joins_iff {ls : List String} (h : ∀ l ∈ ls, IsLine l) (text : String) :
    Joins ls text ↔ lines text.toList = ls.map String.toList := by
  induction ls generalizing text with
  | nil =>
    rw [List.map_nil, lines_eq_nil_iff, String.toList_eq_nil_iff]
    exact ⟨fun hjoins => by cases hjoins; rfl, fun hempty => hempty ▸ .nothing⟩
  | cons line rest ih =>
    obtain ⟨hline, hrest⟩ := List.forall_mem_cons.mp h
    rw [List.map_cons, lines_eq_cons_iff hline]
    constructor
    · intro hjoins
      cases hjoins with
      | unended hempty => exact .inl ⟨rfl, hempty, rfl⟩
      | @ended _ _ text e hjoins =>
        exact .inr ⟨e, text.toList, by simp, ((ih hrest text).mp hjoins).symm⟩
    · rintro (⟨htext, hempty, hnil⟩ | ⟨e, after, htext, hafter⟩)
      · obtain rfl : text = line := String.toList_injective htext
        obtain rfl : rest = [] := List.map_eq_nil_iff.mp hnil
        exact .unended hempty
      · obtain rfl : text = line ++ e.text ++ String.ofList after :=
          String.toList_injective (by simpa using htext)
        exact .ended e ((ih hrest _).mpr (by rw [String.toList_ofList, hafter]))

end Text

open Text

/-- The texts that join some lines are those that are read back as these lines, in their order and
numbered from one. So scripts that join the same lines run in the same way, whatever ends the lines
have, and whether the last one has an end or not. -/
theorem script_reads_back {ls : List String} (h : ∀ l ∈ ls, IsLine l) (text source : String) :
    (Joins ls text ↔
      scriptLines text source = (ls.zipIdx 1).map fun (l, n) => ⟨l, n, source⟩) ∧
    ∀ text', Joins ls text → Joins ls text' →
      ∀ {σ ρ : Type} (E : Executor σ) (R : Reporter ρ) (s : Stage σ ρ),
        s.interpret E R text source = s.interpret E R text' source := by
  have hread : ∀ text, Joins ls text ↔
      scriptLines text source = (ls.zipIdx 1).map fun (l, n) => ⟨l, n, source⟩ := by
    intro text
    rw [joins_iff h, scriptLines]
    constructor
    · intro hlines
      rw [hlines, List.zipIdx_map, List.map_map]
      simp [Function.comp_def]
    · intro hlines
      have htexts := congrArg (List.map fun line => line.text.toList) hlines
      have hfirsts : lines text.toList = (ls.zipIdx 1).map (String.toList ∘ Prod.fst) := by
        simpa [List.map_map, Function.comp_def] using htexts
      rw [hfirsts, ← List.map_map, List.zipIdx_map_fst]
  refine ⟨hread text, fun text' htext htext' σ ρ E R s => ?_⟩
  rw [Stage.interpret, Stage.interpret, (hread text).mp htext, (hread text').mp htext']

/-- A carriage return within a line stays, and so does an empty line. -/
theorem script_reads_back_mixed :
    (∀ l ∈ ["Scenario: s", "", "Given a\rb", "Then c"], IsLine l) ∧
      scriptLines "Scenario: s\r\n\r\nGiven a\rb\nThen c" "demo" =
        [⟨"Scenario: s", 1, "demo"⟩, ⟨"", 2, "demo"⟩, ⟨"Given a\rb", 3, "demo"⟩,
          ⟨"Then c", 4, "demo"⟩] := by
  have hlines : ∀ l ∈ ["Scenario: s", "", "Given a\rb", "Then c"], IsLine l := by decide
  have hjoins : Joins ["Scenario: s", "", "Given a\rb", "Then c"]
      "Scenario: s\r\n\r\nGiven a\rb\nThen c" :=
    .ended .returnNewline (.ended .returnNewline (.ended .newline (.unended (by decide))))
  exact ⟨hlines, (script_reads_back hlines _ "demo").1.mp hjoins⟩

end FeatureScript
