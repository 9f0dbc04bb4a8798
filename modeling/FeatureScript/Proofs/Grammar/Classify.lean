import FeatureScript.Proofs.Grammar.Captures
import Mathlib.Data.List.Basic

/-!
# FeatureScript.Proofs.Grammar.Classify

Lines classified by patterns.

The heading pattern captures the name of a heading and its label (`captures_heading`), the step
pattern a keyword and the text of a step (`captures_step`). No line has both, so they may be tried
in either order (`headingToken?_or_comm`), and what they tell is what the form of the line says
(`says_of_patterns`). That is the classification of lines (`classify_iff`).
-/

namespace FeatureScript

open Pattern Text Unicode Grammar

/-! ## Words without regard to case -/

namespace Grammar

theorem dropWord?_congr {same same' : Char → Char → Bool} {word : List Char}
    (h : ∀ w ∈ word, ∀ c, same w c = same' w c) (rest : List Char) :
    dropWord? same word rest = dropWord? same' word rest := by
  induction word generalizing rest with
  | nil => rfl
  | cons w word ih =>
    obtain ⟨hw, hword⟩ := List.forall_mem_cons.mp h
    cases rest with
    | nil => rfl
    | cons c rest => rw [dropWord?, dropWord?, hw, ih hword]

theorem dropWord?_map {same : Char → Char → Bool} (f : Char → Char) (word rest : List Char) :
    dropWord? same (word.map f) rest = dropWord? (fun w c => same (f w) c) word rest := by
  induction word generalizing rest with
  | nil => rfl
  | cons w word ih =>
    cases rest with
    | nil => rfl
    | cons c rest => rw [List.map_cons, dropWord?, dropWord?, ih]

theorem dropCaseless?_heading {name : List Char} (hname : name ∈ headingWords) (rest : List Char) :
    dropCaseless? name rest = dropWord? sameFolded name rest := by
  have hletters := (words_heading name hname).2
  exact dropWord?_congr (fun w hw => has_caseless (hletters w hw)) rest

theorem dropCaseless?_step (k : Keyword) (rest : List Char) :
    dropCaseless? k.lowerName.toList rest =
      dropWord? sameLetter k.name.toList rest := by
  have hk : k ∈ Keyword.all := by cases k <;> decide
  have hletters := (words_step k.lowerName.toList (List.mem_map_of_mem hk)).2
  -- No keyword has the letter s, so the pattern finds no more than ASCII letters in either case.
  have hs : 's' ∉ k.lowerName.toList := by cases k <;> decide
  have hlower : k.lowerName.toList = k.name.toList.map Char.toLower := by cases k <;> decide
  rw [hlower] at hletters hs ⊢
  rw [dropCaseless?, dropWord?_map]
  refine dropWord?_congr (fun w hw => ?_) rest
  have hmem := List.mem_map_of_mem (f := Char.toLower) hw
  exact has_caseless_of_ne (hletters _ hmem) fun h => hs (h ▸ hmem)

/-! ## Payloads at the end -/

theorem IsPayload.suffix {rest found : List Char} (h : IsPayload rest found) : found <:+ rest := by
  cases h with
  | text => exact List.suffix_append _ _
  | blank => exact List.suffix_append _ _

theorem labelAfter?_suffix {rest found : List Char} (h : labelAfter? rest = some found) :
    found <:+ rest := by
  rw [labelAfter?] at h
  split at h
  next left hleft =>
    refine ((payload?_iff.mp h).suffix.trans (List.suffix_cons ':' left)).trans ?_
    exact hleft ▸ List.dropWhile_suffix isBlank
  next => cases h

theorem textAfter?_suffix {rest found : List Char} (h : textAfter? rest = some found) :
    found <:+ rest := by
  cases rest with
  | nil => cases h
  | cons c rest =>
    rw [textAfter?] at h
    split at h
    · exact (payload?_iff.mp h).suffix.trans (List.suffix_cons c rest)
    · cases h

end Grammar

/-! ## Captures -/

def headingPattern : StepPattern := ⟨headingSource, headingExpr.regex⟩

def stepPattern : StepPattern := ⟨stepSource, stepExpr.regex⟩

theorem compile_of_read {source : String} {expr : Expr} (h : Reader.read source.toList = .ok expr) :
    StepPattern.compile source = .ok ⟨source, expr.regex⟩ := by
  rw [StepPattern.compile, h]

theorem findSome?_congr {α β : Type} {f g : α → Option β} {l : List α} (h : ∀ a ∈ l, f a = g a) :
    l.findSome? f = l.findSome? g := by
  rw [← List.head?_filterMap, ← List.head?_filterMap, List.filterMap_congr h]

theorem captures_heading (line : String) :
    headingPattern.captures line = ["feature", "scenario"].findSome? fun name =>
      (heading? name (dropBlanks line.toList)).map fun label =>
        [String.ofList ((dropBlanks line.toList).take name.toList.length),
          String.ofList label] := by
  have hwords : headingWords = ["feature", "scenario"].map String.toList := rfl
  rw [headingPattern, headingExpr,
    lineExpr_captures words_heading rfl rfl leadsTo_label labelAfter?_suffix, hwords,
    List.findSome?_map]
  refine findSome?_congr fun name hname => ?_
  rw [Function.comp_apply, dropCaseless?_heading (hwords ▸ List.mem_map_of_mem hname), heading?_eq]

theorem captures_step (line : String) :
    stepPattern.captures line = Keyword.all.findSome? fun k =>
      (stepText? k (dropBlanks line.toList)).map fun text =>
        [String.ofList ((dropBlanks line.toList).take k.name.toList.length),
          String.ofList text] := by
  have hlength : ∀ k : Keyword, k.lowerName.toList.length = k.name.toList.length := by
    intro k
    cases k <;> decide
  rw [stepPattern, stepExpr,
    lineExpr_captures words_step rfl rfl leadsTo_text textAfter?_suffix, stepWords,
    List.findSome?_map]
  refine findSome?_congr fun k _ => ?_
  rw [Function.comp_apply, dropCaseless?_step, stepText?_eq, hlength]

section

variable {line : String} {captures : List String}

theorem heading_of_captures (h : headingPattern.captures line = some captures) :
    ∃ name ∈ ["feature", "scenario"], ∃ label, Heading name (dropBlanks line.toList) label ∧
      captures = [String.ofList ((dropBlanks line.toList).take name.toList.length),
        String.ofList label] := by
  rw [captures_heading] at h
  obtain ⟨name, hname, h⟩ := List.exists_of_findSome?_eq_some h
  obtain ⟨label, hlabel, h⟩ := Option.map_eq_some_iff.mp h
  exact ⟨name, hname, label, heading?_iff.mp hlabel, h.symm⟩

theorem not_heading_of_captures (h : headingPattern.captures line = none) {name : String}
    (hname : name ∈ ["feature", "scenario"]) (label : List Char) :
    ¬Heading name (dropBlanks line.toList) label := by
  rw [captures_heading, List.findSome?_eq_none_iff] at h
  exact heading?_eq_none.mp (Option.map_eq_none_iff.mp (h name hname)) label

theorem step_of_captures (h : stepPattern.captures line = some captures) :
    ∃ k text, StepLine k (dropBlanks line.toList) text ∧
      captures = [String.ofList ((dropBlanks line.toList).take k.name.toList.length),
        String.ofList text] := by
  rw [captures_step] at h
  obtain ⟨k, -, h⟩ := List.exists_of_findSome?_eq_some h
  obtain ⟨text, htext, h⟩ := Option.map_eq_some_iff.mp h
  exact ⟨k, text, stepText?_iff.mp htext, h.symm⟩

theorem not_step_of_captures (h : stepPattern.captures line = none) (k : Keyword)
    (text : List Char) : ¬StepLine k (dropBlanks line.toList) text := by
  rw [captures_step, List.findSome?_eq_none_iff] at h
  intro hstep
  have hnone := Option.map_eq_none_iff.mp (h k (by cases k <;> decide))
  rw [stepText?_iff.mpr hstep] at hnone
  cases hnone

/-- The two patterns do not match the same line. -/
theorem captures_heading_or_step (line : String) :
    headingPattern.captures line = none ∨ stepPattern.captures line = none := by
  cases hheading : headingPattern.captures line with
  | none => exact .inl rfl
  | some captures =>
    cases hstep : stepPattern.captures line with
    | none => exact .inr rfl
    | some captures' =>
      obtain ⟨name, hname, label, hlabel, -⟩ := heading_of_captures hheading
      obtain ⟨k, text, htext, -⟩ := step_of_captures hstep
      exact absurd htext (hlabel.not_step (by simpa using hname))

end

/-! ## Tokens -/

/-- The heading that the captures of a pattern tell: the kind of the heading and its label. -/
def headingToken? (p : StepPattern) (line : String) : Option Token :=
  match p.captures line with
  | some [kind, label] =>
    some (if Keyword.sameLetters kind.toList "feature".toList then .feature label
      else .scenario label)
  | _ => none

/-- The step that the captures of a pattern tell: its keyword and its text. -/
def stepToken? (p : StepPattern) (line : String) : Option Token :=
  match p.captures line with
  | some [word, text] =>
    match Keyword.parse word with
    | .ok k => some (.step k text)
    | .error _ => none
  | _ => none

section

variable {rest label text : List Char} {k : Keyword}

/-- What folds to a word without the letter s is the word in either case. -/
theorem map_toLower_of_fold {name word : List Char}
    (hname : ∀ w ∈ name, w ∈ nameLetters) (hs : 's' ∉ name)
    (h : word.map (fun c => fold c.toNat) = name.map fun c => fold c.toNat) :
    word.map Char.toLower = name := by
  induction name generalizing word with
  | nil => rw [List.map_eq_nil_iff.mp h, List.map_nil]
  | cons w name ih =>
    obtain ⟨hw, hname⟩ := List.forall_mem_cons.mp hname
    obtain ⟨c, word, rfl, hc, hword⟩ := List.map_eq_cons_iff.mp h
    rw [List.mem_cons, not_or] at hs
    have hsame : (w == c.toLower) = true := by
      rw [← has_caseless_of_ne hw (Ne.symm hs.1), has_caseless hw, sameFolded, hc,
        beq_self_eq_true]
    rw [List.map_cons, ih hname hs.2 hword, ← eq_of_beq hsame]

theorem Grammar.Heading.take_feature (h : Heading "feature" rest label) :
    Keyword.sameLetters (rest.take "feature".toList.length) "feature".toList = true := by
  obtain ⟨word, blanks, rest, rfl, hfold, -⟩ := h
  have hlength : word.length = "feature".toList.length := by
    simpa using congrArg List.length hfold
  have hletters := (words_heading "feature".toList List.mem_cons_self).2
  have hlower := map_toLower_of_fold hletters (by decide) hfold
  rw [← hlength, List.take_left, Keyword.sameLetters, hlower]
  decide

theorem Grammar.Heading.take_scenario (h : Heading "scenario" rest label) :
    Keyword.sameLetters (rest.take "scenario".toList.length) "feature".toList = false := by
  obtain ⟨word, blanks, rest, rfl, hfold, -⟩ := h
  have hlength : word.length = "scenario".toList.length := by
    simpa using congrArg List.length hfold
  rw [← hlength, List.take_left, Keyword.sameLetters, beq_eq_false_iff_ne]
  intro hlower
  have hsame := congrArg List.length hlower
  rw [List.length_map, hlength] at hsame
  revert hsame
  decide

theorem Grammar.StepLine.parse_take (h : StepLine k rest text) :
    Keyword.parse (String.ofList (rest.take k.name.toList.length)) = .ok k := by
  obtain ⟨word, blank, rest, rfl, hword, -⟩ := h
  have hlength := congrArg List.length hword
  rw [List.length_map, List.length_map] at hlength
  rw [← hlength, List.take_left, parse_of_lower hword]

end

section

variable {line : String} {captures : List String}

theorem headingToken?_of_captures (h : headingPattern.captures line = some captures) :
    ∃ t, headingToken? headingPattern line = some t ∧ Says (dropBlanks line.toList) t := by
  obtain ⟨name, hname, label, hlabel, rfl⟩ := heading_of_captures h
  rw [headingToken?, h]
  simp only [String.toList_ofList, Option.some.injEq, exists_eq_left']
  simp only [List.mem_cons, List.not_mem_nil, or_false] at hname
  rcases hname with rfl | rfl
  · rw [if_pos hlabel.take_feature]
    show Heading "feature" (dropBlanks line.toList) (String.ofList label).toList
    rwa [String.toList_ofList]
  · rw [if_neg (Bool.eq_false_iff.mp hlabel.take_scenario)]
    show Heading "scenario" (dropBlanks line.toList) (String.ofList label).toList
    rwa [String.toList_ofList]

/-- The word that is captured of a step is read as its keyword. -/
theorem parse_of_captures (h : stepPattern.captures line = some captures) :
    ∃ k text, StepLine k (dropBlanks line.toList) text ∧
      ∃ word, captures = [word, String.ofList text] ∧ Keyword.parse word = .ok k := by
  obtain ⟨k, text, htext, rfl⟩ := step_of_captures h
  exact ⟨k, text, htext, _, rfl, htext.parse_take⟩

theorem stepToken?_of_captures (h : stepPattern.captures line = some captures) :
    ∃ t, stepToken? stepPattern line = some t ∧ Says (dropBlanks line.toList) t := by
  obtain ⟨k, text, htext, word, rfl, hword⟩ := parse_of_captures h
  refine ⟨.step k (String.ofList text), ?_, ?_⟩
  · rw [stepToken?, h]
    simp only [hword]
  · show StepLine k (dropBlanks line.toList) (String.ofList text).toList
    rwa [String.toList_ofList]

/-- Trying the heading pattern first and the step pattern second tells what the line says. -/
theorem says_of_patterns (line : String) : Says (dropBlanks line.toList)
    (((headingToken? headingPattern line).or (stepToken? stepPattern line)).getD .text) := by
  cases hheading : headingPattern.captures line with
  | some captures =>
    obtain ⟨t, ht, hsays⟩ := headingToken?_of_captures hheading
    rwa [ht]
  | none =>
    have hnone : headingToken? headingPattern line = none := by rw [headingToken?, hheading]
    rw [hnone, Option.none_or]
    cases hstep : stepPattern.captures line with
    | some captures =>
      obtain ⟨t, ht, hsays⟩ := stepToken?_of_captures hstep
      rwa [ht]
    | none =>
      have hnone : stepToken? stepPattern line = none := by rw [stepToken?, hstep]
      rw [hnone]
      exact ⟨fun label => ⟨not_heading_of_captures hheading (by decide) label,
        not_heading_of_captures hheading (by decide) label⟩, not_step_of_captures hstep⟩

/-- It makes no difference which pattern is tried first. -/
theorem headingToken?_or_comm (line : String) :
    (headingToken? headingPattern line).or (stepToken? stepPattern line) =
      (stepToken? stepPattern line).or (headingToken? headingPattern line) := by
  rcases captures_heading_or_step line with h | h
  · rw [show headingToken? headingPattern line = none by rw [headingToken?, h], Option.none_or,
      Option.or_none]
  · rw [show stepToken? stepPattern line = none by rw [stepToken?, h], Option.none_or,
      Option.or_none]

end

/-! ## The line grammar -/

/-- What a line says is told by what follows its leading white space: a heading, a step or neither,
and never both of the first two. The heading pattern and the step pattern tell the same of every
line, whichever is tried first, and the word that the step pattern captures is always a keyword. -/
theorem classify_iff (line : String) :
    (∀ t, classify line = t ↔ Says (dropBlanks line.toList) t) ∧
      (∀ name ∈ ["feature", "scenario"], ∀ label k text,
        ¬(Heading name (dropBlanks line.toList) label ∧
          StepLine k (dropBlanks line.toList) text)) ∧
      StepPattern.compile headingSource = .ok headingPattern ∧
      StepPattern.compile stepSource = .ok stepPattern ∧
      classify line =
        ((headingToken? headingPattern line).or (stepToken? stepPattern line)).getD .text ∧
      classify line =
        ((stepToken? stepPattern line).or (headingToken? headingPattern line)).getD .text ∧
      ∀ captures, stepPattern.captures line = some captures →
        ∃ word text k, captures = [word, text] ∧ Keyword.parse word = .ok k := by
  have hpatterns : classify line =
      ((headingToken? headingPattern line).or (stepToken? stepPattern line)).getD .text :=
    token_iff.mpr (says_of_patterns line)
  refine ⟨fun t => token_iff, ?_, compile_of_read Reader.read_heading,
    compile_of_read Reader.read_step, hpatterns, ?_, ?_⟩
  · rintro name hname label k text ⟨hheading, hstep⟩
    exact hheading.not_step (by simpa using hname) hstep
  · rw [← headingToken?_or_comm, hpatterns]
  · intro captures h
    obtain ⟨k, text, -, word, rfl, hword⟩ := parse_of_captures h
    exact ⟨word, _, k, rfl, hword⟩

end FeatureScript
