import FeatureScript.Proofs.Grammar.Forms
import FeatureScript.Proofs.Pattern.Literal

/-!
# FeatureScript.Proofs.Pattern.Exact

The pattern of a text is exact.

`IsTrimmed text t` says that `t` is the text between the white space at the two ends of `text`;
there is one such `t` (`isTrimmed_iff`). `literal_pattern_exact`: unless it is too large, the pattern
of a text is accepted, and it matches that one `t` and nothing else.
-/

namespace FeatureScript

open Text Unicode Grammar

namespace Text

/-- The second text is the first one between white space, and has none at its ends. -/
structure IsTrimmed (text t : List Char) : Prop where
  between : ∃ front back, text = front ++ (t ++ back) ∧
    (∀ c ∈ front, isBlank c) ∧ ∀ c ∈ back, isBlank c
  head : ∀ c ∈ t.head?, isBlank c = false
  last : ∀ c ∈ t.getLast?, isBlank c = false

theorem IsTrimmed.eq_trim {text t : List Char} (h : IsTrimmed text t) : t = trim text := by
  obtain ⟨⟨front, back, rfl, hfront, hback⟩, hhead, hlast⟩ := h
  rw [trim, dropBlanks_append hfront]
  cases t with
  | nil =>
    have hnone : dropBlanks back = [] := List.dropWhile_eq_nil_iff.mpr hback
    rw [List.nil_append, hnone]
    rfl
  | cons c t =>
    have hreverse : ∀ d ∈ (c :: t).reverse.head?, isBlank d = false := by
      rwa [List.head?_reverse]
    rw [List.cons_append, dropBlanks_of_head (hhead c rfl), ← List.cons_append,
      List.reverse_append, dropBlanks_append fun d hd => hback d (List.mem_reverse.mp hd)]
    obtain ⟨d, rest, hrest⟩ := List.exists_cons_of_ne_nil
      (List.reverse_ne_nil_iff.mpr (List.cons_ne_nil c t))
    rw [hrest] at hreverse ⊢
    rw [dropBlanks_of_head (hreverse d rfl), ← hrest, List.reverse_reverse]

theorem isTrimmed_trim (text : List Char) : IsTrimmed text (trim text) := by
  obtain ⟨front, hfront, htext⟩ := dropBlanks_split text
  obtain ⟨back, hback, hrest⟩ := dropBlanks_split (dropBlanks text).reverse
  have hsplit : dropBlanks text = trim text ++ back.reverse := by
    rw [trim, ← List.reverse_append, ← hrest, List.reverse_reverse]
  refine ⟨⟨front, back.reverse, by rw [← hsplit, ← htext], hfront,
    fun c hc => hback c (List.mem_reverse.mp hc)⟩, fun c hc => ?_, fun c hc => ?_⟩
  · refine isBlank_head_dropBlanks text c ?_
    rw [hsplit, List.head?_append, Option.mem_def.mp hc]
    rfl
  · rw [trim, List.getLast?_reverse] at hc
    exact isBlank_head_dropBlanks _ c hc

theorem isTrimmed_iff {text t : List Char} : IsTrimmed text t ↔ t = trim text :=
  ⟨IsTrimmed.eq_trim, fun h => h ▸ isTrimmed_trim text⟩

end Text

/-- Each text has its trimmed text. The pattern of a text is accepted, and then matches the trimmed
text and nothing else, without captures; or else the trimmed text takes too many bytes, and that is
the only reason for which the pattern is not accepted. -/
theorem literal_pattern_exact (text : String) :
    ∃ exact : String, (∀ t : String, IsTrimmed text.toList t.toList ↔ t = exact) ∧
      ((exact.utf8ByteSize ≤ 327674 ∧ ∃ p, StepPattern.compile (literalPattern text) = .ok p ∧
          p.captures exact = some [] ∧ ∀ probe, probe ≠ exact → p.captures probe = none) ∨
        (327674 < exact.utf8ByteSize ∧
          StepPattern.compile (literalPattern text) =
            .error ⟨literalPattern text, .tooLarge⟩)) := by
  refine ⟨trimmed text, fun t => ?_, ?_⟩
  · rw [isTrimmed_iff, trimmed, ← String.toList_inj, String.toList_ofList]
  · rcases Nat.lt_or_ge 327674 (trimmed text).utf8ByteSize with hlarge | hfits
    · exact .inr ⟨hlarge, by rw [compile_literal, if_neg (Nat.not_le.mpr hlarge)]⟩
    · refine .inl ⟨hfits, literalStep text, by rw [compile_literal, if_pos hfits], ?_, ?_⟩
      · rw [literal_captures, if_pos rfl]
      · intro probe hprobe
        rw [literal_captures, if_neg hprobe]

end FeatureScript
