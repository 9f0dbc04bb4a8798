import FeatureScript.Line
import FeatureScript.Proofs.Text.Lines
import Mathlib.Data.List.TakeWhile

/-!
# FeatureScript.Proofs.Grammar.Payload

The text of a step, as the line grammar gives it.

A payload is not empty and holds no line feed. It begins with a character that is no white space,
unless it is a single blank (`Payload`). So a step text that does not end in white space is trimmed
(`trimmed_of_step`).
-/

namespace FeatureScript

open Text Unicode

namespace Text

theorem dropBlanks_of_head {c : Char} (h : isBlank c = false) (cs : List Char) :
    dropBlanks (c :: cs) = c :: cs :=
  List.dropWhile_cons_of_neg (by rw [h]; decide)

/-- A text with no white space at either end is trimmed. -/
theorem trim_eq_self {cs : List Char} (hhead : ∀ c ∈ cs.head?, isBlank c = false)
    (hlast : ∀ c ∈ cs.getLast?, isBlank c = false) : trim cs = cs := by
  have hdrop : ∀ ds : List Char, (∀ c ∈ ds.head?, isBlank c = false) → dropBlanks ds = ds := by
    intro ds hds
    cases ds with
    | nil => rfl
    | cons d ds => exact dropBlanks_of_head (hds d rfl) ds
  rw [trim, hdrop cs hhead, hdrop, List.reverse_reverse]
  rw [List.head?_reverse]
  exact hlast

theorem isBlank_head_dropBlanks (cs : List Char) :
    ∀ c ∈ (dropBlanks cs).head?, isBlank c = false := by
  intro c hc
  have h := List.head?_dropWhile_not isBlank cs
  rw [show (cs.dropWhile isBlank).head? = some c from hc] at h
  simpa using h

theorem isBlank_of_dropBlanks_eq_nil {cs : List Char} (h : dropBlanks cs = []) :
    ∀ c ∈ cs, isBlank c = true :=
  List.dropWhile_eq_nil_iff.mp h

end Text

namespace Grammar

/-- What a payload is: it begins with no white space, or is a single blank. -/
structure Payload (cs : List Char) : Prop where
  nonempty : cs ≠ []
  oneLine : '\n' ∉ cs
  begins : (∀ c ∈ cs.head?, isBlank c = false) ∨ ∃ c, cs = [c] ∧ isBlank c = true

theorem payload_of_payload? {rest found : List Char} (h : payload? rest = some found) :
    Payload found := by
  unfold payload? at h
  cases hdrop : dropBlanks rest with
  | nil =>
    simp only [hdrop] at h
    cases hlast : rest.getLast? with
    | none => simp [hlast] at h
    | some c =>
      simp only [hlast] at h
      split at h
      · cases h
      · rename_i hc
        cases h
        have hblank := isBlank_of_dropBlanks_eq_nil hdrop c (List.mem_of_getLast? hlast)
        exact ⟨by simp, by simpa using fun h => hc h.symm, .inr ⟨c, rfl, hblank⟩⟩
  | cons c cs =>
    simp only [hdrop] at h
    split at h
    · cases h
    · rename_i hline
      cases h
      exact ⟨by simp, hline, .inl (hdrop ▸ isBlank_head_dropBlanks rest)⟩

theorem payload_of_stepText? {k : Keyword} {rest found : List Char}
    (h : stepText? k rest = some found) : Payload found := by
  unfold stepText? at h
  split at h
  · split at h
    · exact payload_of_payload? h
    · cases h
  · cases h

theorem payload_of_token {line : List Char} {k : Keyword} {text : String}
    (h : token line = .step k text) : Payload text.toList := by
  simp only [token] at h
  split at h
  · cases h
  · split at h
    · cases h
    · cases hstep : step? (dropBlanks line) with
      | none => simp [hstep] at h
      | some t =>
        rw [hstep] at h
        obtain ⟨k', -, hk⟩ := List.exists_of_findSome?_eq_some hstep
        obtain ⟨cs, hcs, ht⟩ := Option.map_eq_some_iff.mp hk
        rw [← ht] at h
        cases h
        rw [String.toList_ofList]
        exact payload_of_stepText? hcs

/-! ## Lines as they are written -/

section

variable {c : Char} {cs : List Char}

theorem payload?_of_plain (hc : isBlank c = false) (hline : '\n' ∉ c :: cs) :
    payload? (c :: cs) = some (c :: cs) := by
  rw [payload?, dropBlanks_of_head hc]
  exact if_neg hline

theorem stepText?_of_plain (k : Keyword) (hc : isBlank c = false) (hline : '\n' ∉ c :: cs) :
    stepText? k (k.name.toList ++ ' ' :: c :: cs) = some (c :: cs) := by
  rw [← payload?_of_plain hc hline]
  cases k <;> rfl

/-- A keyword, a space and a text are a step with that text. -/
theorem token_of_plain (k : Keyword) (hc : isBlank c = false) (hline : '\n' ∉ c :: cs) :
    token (k.name.toList ++ ' ' :: c :: cs) = .step k (String.ofList (c :: cs)) := by
  have hrest : dropBlanks (k.name.toList ++ ' ' :: c :: cs) = k.name.toList ++ ' ' :: c :: cs := by
    cases k <;> rfl
  have hfeature : heading? "feature" (k.name.toList ++ ' ' :: c :: cs) = none := by
    cases k <;> rfl
  have hscenario : heading? "scenario" (k.name.toList ++ ' ' :: c :: cs) = none := by
    cases k <;> rfl
  have htext : ∀ j, stepText? j (k.name.toList ++ ' ' :: c :: cs) =
      if j = k then some (c :: cs) else none := by
    intro j
    split
    · rename_i hj
      rw [hj, stepText?_of_plain k hc hline]
    · rename_i hj
      cases j <;> cases k <;> first | rfl | exact absurd rfl hj
  have hstep : step? (k.name.toList ++ ' ' :: c :: cs) =
      some (.step k (String.ofList (c :: cs))) := by
    simp only [step?, htext]
    cases k <;> rfl
  simp only [token, hrest, hfeature, hscenario, hstep, Option.getD_some]

end

end Grammar

/-- A text without line feeds is one line. -/
theorem scriptLines_of_plain {text : String} (hne : text.toList ≠ []) (hline : '\n' ∉ text.toList)
    (source : String) : scriptLines text source = [⟨text, 1, source⟩] := by
  rw [scriptLines, lines_of_not_mem hline, if_neg hne]
  simp

/-- No white space stands at the end of the text. -/
def EndsPlain (text : String) : Prop := ∀ c ∈ text.toList.getLast?, isBlank c = false

instance (text : String) : Decidable (EndsPlain text) :=
  decidable_of_iff (text.toList.getLast?.all fun c => !isBlank c) (by
    simp [EndsPlain, Option.all_eq_true])

/-- A step text without white space at its end is trimmed. -/
theorem trimmed_of_step {line : Line} {k : Keyword} {text : String} (h : line.token = .step k text)
    (hend : EndsPlain text) : trimmed text = text := by
  have hpayload : Grammar.Payload text.toList := Grammar.payload_of_token h
  have hhead : ∀ c ∈ text.toList.head?, isBlank c = false := by
    rcases hpayload.begins with hhead | ⟨c, hc, hblank⟩
    · exact hhead
    · rw [hend c (by rw [hc]; rfl)] at hblank
      cases hblank
  rw [trimmed, trim_eq_self hhead hend, String.ofList_toList]

end FeatureScript
