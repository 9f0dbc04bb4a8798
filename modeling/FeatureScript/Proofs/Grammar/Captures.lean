import FeatureScript.Proofs.Grammar.Forms
import FeatureScript.Proofs.Grammar.Patterns
import FeatureScript.Proofs.Pattern.Greedy

/-!
# FeatureScript.Proofs.Grammar.Captures

What the two patterns of the line grammar capture.

A greedy run of white space gives characters back to the payload only where nothing else is left for
it, which is what `payload?` does (`payload?_cons`, `greedily_blank`). Behind a keyword, white space
leads on from no blank, so it is taken whole. Hence a line pattern captures the first of its words
that the line begins with and the payload behind it (`lineExpr_captures`).
-/

namespace FeatureScript

open Pattern Text Unicode

namespace Grammar

/-! ## Payloads by backtracking -/

/-- All that is left, unless it is empty or has a line feed. -/
def line? (rest : List Char) : Option (List Char) :=
  if rest = [] ∨ '\n' ∈ rest then none else some rest

/-- Only a line feed stands between a text and its payload. -/
theorem mem_of_payload?_eq_none {rest : List Char} (hne : rest ≠ []) (h : payload? rest = none) :
    '\n' ∈ rest := by
  rw [payload?] at h
  split at h
  next =>
    rw [List.getLast?_eq_some_getLast hne] at h
    simp only [ite_eq_left_iff, reduceCtorEq, imp_false, not_not] at h
    exact h ▸ List.getLast_mem hne
  next =>
    simp only [ite_eq_left_iff, reduceCtorEq, imp_false, not_not] at h
    exact (List.dropWhile_suffix _).mem h

theorem payload?_cons (c : Char) (rest : List Char) : payload? (c :: rest) =
    if isBlank c then (payload? rest).or (line? (c :: rest)) else line? (c :: rest) := by
  -- A rest without a payload is empty or has a line feed, so to give the blank back is of use only
  -- where it is the last character.
  split
  next hc =>
    have hdrop : dropBlanks (c :: rest) = dropBlanks rest := List.dropWhile_cons_of_pos hc
    cases rest with
    | nil =>
      rw [payload?, hdrop]
      simp [line?, payload?, dropBlanks, eq_comm]
    | cons d rest =>
      have hsame : payload? (c :: d :: rest) = payload? (d :: rest) := by
        rw [payload?, payload?, hdrop, List.getLast?_cons_cons]
      rw [hsame]
      cases hpayload : payload? (d :: rest) with
      | some found => rfl
      | none =>
        have hline := mem_of_payload?_eq_none (List.cons_ne_nil d rest) hpayload
        rw [line?, if_pos (.inr (List.mem_cons_of_mem c hline))]
        rfl
  next hc =>
    rw [payload?, dropBlanks_of_head (Bool.eq_false_iff.mpr hc), line?]
    simp

/-- What follows a word of small letters, if the text begins with it in any case. -/
def dropCaseless? (word rest : List Char) : Option (List Char) :=
  dropWord? (fun w c => (caseless w).has c) word rest

theorem dropWord?_split {same : Char → Char → Bool} {word rest left : List Char}
    (h : dropWord? same word rest = some left) :
    ∃ front, rest = front ++ left ∧ front.length = word.length := by
  induction word generalizing rest with
  | nil => exact ⟨[], Option.some.inj h, rfl⟩
  | cons w word ih =>
    cases rest with
    | nil => cases h
    | cons c rest =>
      rw [dropWord?] at h
      split at h
      · obtain ⟨front, rfl, hlength⟩ := ih h
        exact ⟨c :: front, rfl, congrArg Nat.succ hlength⟩
      · cases h

/-- The payload behind the name of a heading. -/
def labelAfter? (rest : List Char) : Option (List Char) :=
  match dropBlanks rest with
  | ':' :: rest => payload? rest
  | _ => none

/-- The payload behind the keyword of a step. -/
def textAfter? : List Char → Option (List Char)
  | c :: rest => if isBlank c then payload? rest else none
  | [] => none

theorem heading?_eq (name : String) (rest : List Char) :
    heading? name rest = (dropWord? sameFolded name.toList rest).bind labelAfter? := by
  rw [heading?]
  cases dropWord? sameFolded name.toList rest <;> rfl

theorem stepText?_eq (k : Keyword) (rest : List Char) :
    stepText? k rest = (dropWord? sameLetter k.name.toList rest).bind textAfter? := by
  rw [stepText?]
  rcases dropWord? sameLetter k.name.toList rest with _ | _ | ⟨c, rest⟩ <;> rfl

end Grammar

namespace Pattern

open Grammar

/-- The marks of a payload that ends with the text. -/
def payloadMarks (text : Array Char) (marks : List Mark) (found : List Char) : List Mark :=
  ⟨2, false, text.size⟩ :: ⟨2, true, text.size - found.length⟩ :: marks

def payloadMatcher (text : Array Char) : Matcher :=
  payloadExprs.foldr (fun e k => e.regex.prefer text k) fun _ _ marks => some marks

section

variable {text : Array Char} {rest : List Char} {p : Nat}

theorem has_dot (c : Char) : dot.has c = (c != '\n') := by
  have hpoint : c ≠ '\n' ↔ c.toNat ≠ 10 := by rw [ne_eq, ← Char.toNat_inj]; rfl
  have hlast : c.toNat ≤ 0x10FFFF := by
    have hvalid : c.toNat.isValidChar := c.valid
    simp only [Nat.isValidChar] at hvalid
    omega
  rw [Bool.eq_iff_iff, bne_iff_ne, hpoint, CharSet.has, dot]
  simp only [Ranges.has]
  repeat' split
  all_goals simp only [decide_eq_true_eq]; omega

theorem prefer_textEnd (h : Left text rest p) (k : Matcher) (marks : List Mark) :
    (Regex.assert .textEnd).prefer text k rest p marks =
      if rest = [] then k rest p marks else none := by
  have hend : Assertion.textEnd.holds text p = decide (rest = []) := by
    have hsize := h.size
    rw [Bool.eq_iff_iff, decide_eq_true_eq, Assertion.holds, beq_iff_eq, ← List.length_eq_zero_iff]
    omega
  show (if Assertion.textEnd.holds text p then _ else _) = _
  simp only [hend, decide_eq_true_eq]

/-- Up to the end there are no line feeds to pass. -/
theorem greedily_dot (h : Left text rest p) {k : Matcher} (marks : List Mark)
    (hk : ∀ {rest p} marks, Left text rest p → rest ≠ [] → k rest p marks = none) :
    Regex.greedily dot k rest p marks = if '\n' ∈ rest then none else k [] text.size marks := by
  induction rest generalizing p with
  | nil =>
    have hsize : p = text.size := h.size
    rw [hsize]
    rfl
  | cons c rest ih =>
    rw [Regex.greedily, ih h.tail, hk marks h (List.cons_ne_nil c rest), Option.or_none, has_dot]
    by_cases hc : c = '\n'
    · simp [hc]
    · simp [hc, Ne.symm hc]

theorem payloadMatcher_eq (h : Left text rest p) (marks : List Mark) :
    payloadMatcher text rest p marks = (line? rest).map (payloadMarks text marks) := by
  cases rest with
  | nil => rfl
  | cons c rest =>
    have hloop : payloadMatcher text (c :: rest) p marks =
        (Regex.loop true (.one dot)).prefer text
          (fun rest p marks => (Regex.assert .textEnd).prefer text (fun _ _ marks => some marks)
            rest p (⟨2, false, p⟩ :: marks)) (c :: rest) p (⟨2, true, p⟩ :: marks) := rfl
    rw [hloop, Regex.prefer_loop]
    show (if dot.has c then Regex.greedily dot _ rest (p + 1) _ else none) = _
    rw [greedily_dot h.tail _ fun marks hleft hne => (prefer_textEnd hleft _ _).trans (if_neg hne)]
    have hstart : p = text.size - (c :: rest).length := by rw [← h.size, Nat.add_sub_cancel]
    have hend : (Regex.assert .textEnd).prefer text (fun _ _ marks => some marks) [] text.size
        (⟨2, false, text.size⟩ :: ⟨2, true, p⟩ :: marks) =
        some (payloadMarks text marks (c :: rest)) := by
      rw [prefer_textEnd ⟨by simp, rfl⟩, if_pos rfl, payloadMarks, ← hstart]
    rw [hend, has_dot, line?]
    by_cases hc : c = '\n'
    · simp [hc]
    · simp only [bne_iff_ne, ne_eq, hc, not_false_eq_true, if_true, List.cons_ne_nil, false_or,
        List.mem_cons, Ne.symm hc]
      split <;> rfl

theorem greedily_blank (h : Left text rest p) (marks : List Mark) :
    Regex.greedily .blank (payloadMatcher text) rest p marks =
      (payload? rest).map (payloadMarks text marks) := by
  induction rest generalizing p with
  | nil => exact payloadMatcher_eq h marks
  | cons c rest ih =>
    rw [Regex.greedily, ih h.tail, payloadMatcher_eq h, payload?_cons]
    show (if isBlank c then _ else _) = _
    split
    · rw [Option.map_or]
    · rfl

/-! ## What stands between -/

/-- What is between the word and the payload, and the payload. -/
def restMatcher (text : Array Char) (between : List Expr) : Matcher :=
  between.foldr (fun e k => e.regex.prefer text k) (payloadMatcher text)

/-- A run of blanks is taken whole where nothing leads on from a blank. -/
theorem greedily_blanks {k : Matcher}
    (hk : ∀ c rest p marks, isBlank c → k (c :: rest) p marks = none) (rest : List Char) (p : Nat)
    (marks : List Mark) : Regex.greedily .blank k rest p marks =
      k (dropBlanks rest) (p + (rest.takeWhile isBlank).length) marks :=
  Regex.greedily_of_none hk rest p marks

theorem left_dropBlanks (h : Left text rest p) :
    Left text (dropBlanks rest) (p + (rest.takeWhile isBlank).length) := by
  refine Left.append ?_
  rwa [dropBlanks, List.takeWhile_append_dropWhile]

theorem left_dropBlanks_toList (text : Array Char) :
    Left text (dropBlanks text.toList) (text.toList.takeWhile isBlank).length := by
  have hstart : Left text text.toList 0 := ⟨rfl, Nat.zero_add _⟩
  have hleft := left_dropBlanks hstart
  rwa [Nat.zero_add] at hleft

/-- What is between the word and the payload leads to the payload that is found so. -/
def LeadsTo (between : List Expr) (after? : List Char → Option (List Char)) : Prop :=
  ∀ ⦃text : Array Char⦄ ⦃rest : List Char⦄ ⦃p : Nat⦄, Left text rest p → ∀ marks : List Mark,
    restMatcher text between rest p marks = (after? rest).map (payloadMarks text marks)

theorem leadsTo_label : LeadsTo [blanksExpr 0, .text [':'], blanksExpr 0] labelAfter? := by
  intro text rest p h marks
  have hmatcher : restMatcher text [blanksExpr 0, .text [':'], blanksExpr 0] rest p marks =
      Regex.greedily .blank ((Regex.one (.single ':')).prefer text
        (Regex.greedily .blank (payloadMatcher text))) rest p marks := by
    show (Regex.many true (.one .blank)).prefer text ((Regex.one (.single ':')).prefer text
      ((Regex.many true (.one .blank)).prefer text (payloadMatcher text))) rest p marks = _
    rw [Regex.prefer_many, Regex.prefer_many]
  have hcolon : ∀ c, (CharSet.single ':').has c = (c == ':') := fun c => by
    rw [CharSet.has, CharSet.single, Ranges.has_point, Bool.eq_iff_iff, beq_iff_eq, beq_iff_eq,
      Char.toNat_inj]
  have hblank : ∀ c rest p marks, isBlank c → (Regex.one (.single ':')).prefer text
      (Regex.greedily .blank (payloadMatcher text)) (c :: rest) p marks = none := by
    intro c rest p marks hc
    have hne : (CharSet.single ':').has c = false := by
      rw [hcolon, beq_eq_false_iff_ne]
      rintro rfl
      revert hc
      decide
    show (if (CharSet.single ':').has c then _ else none) = none
    rw [hne]
    rfl
  have hleft := left_dropBlanks h
  rw [hmatcher, greedily_blanks hblank, labelAfter?]
  cases hdrop : dropBlanks rest with
  | nil => rfl
  | cons c found =>
    rw [hdrop] at hleft
    show (if (CharSet.single ':').has c then Regex.greedily .blank _ found _ marks else none) = _
    rw [hcolon, greedily_blank hleft.tail]
    by_cases hc : c = ':'
    · subst hc
      rfl
    · simp [hc]

theorem leadsTo_text : LeadsTo [blanksExpr 1] textAfter? := by
  intro text rest p h marks
  show (Regex.loop true (.one .blank)).prefer text (payloadMatcher text) rest p marks = _
  rw [Regex.prefer_loop]
  cases rest with
  | nil => rfl
  | cons c rest =>
    show (if isBlank c then Regex.greedily .blank _ rest (p + 1) marks else none) = _
    rw [greedily_blank h.tail, textAfter?]
    split <;> rfl

/-! ## Words -/

theorem not_isBlank_of_has {l c : Char} (hl : l ∈ nameLetters) (h : (caseless l).has c) :
    ¬isBlank c := by
  have hlong : blankRanges.has 0x17F = false := rfl
  obtain ⟨hsmall, hcapital⟩ :=
    forall_nameLetters (P := fun l => blankRanges.has l.toNat = false ∧
      blankRanges.has (l.toNat - 32) = false) (by decide) hl
  rw [isBlank]
  rcases (has_caseless_iff hl).mp h with hc | hc | ⟨-, hc⟩
  · rw [hc, hsmall]; decide
  · rw [hc, hcapital]; decide
  · rw [hc, hlong]; decide

/-- Marks the first of the words that is there, and goes on. -/
def wordsMatcher (ws : List (List Char)) (k : Matcher) : Matcher := fun rest p marks =>
  ws.findSome? fun w => (dropCaseless? w rest).bind fun left =>
    k left (p + w.length) (⟨1, false, p + w.length⟩ :: ⟨1, true, p⟩ :: marks)

theorem prefer_words (ws : List (List Char)) (k : Matcher) :
    (Expr.group 1 (.ofBranches (ws.map wordExpr))).regex.prefer text k = wordsMatcher ws k := by
  funext rest p marks
  have hgroup : (Expr.group 1 (.ofBranches (ws.map wordExpr))).regex.prefer text k rest p marks =
      (Expr.ofBranches (ws.map wordExpr)).regex.prefer text
        (fun rest p marks => k rest p (⟨1, false, p⟩ :: marks)) rest p (⟨1, true, p⟩ :: marks) :=
    rfl
  have hword : ∀ w, (wordExpr w).regex = .seqAll (w.map fun c => .one (caseless c)) := by
    intro w
    rw [wordExpr, Expr.regex_ofItems, List.map_map]
    rfl
  rw [hgroup, Expr.prefer_ofBranches, List.findSome?_map]
  simp only [Function.comp_def, hword, Regex.prefer_word]
  rfl

variable {ws : List (List Char)}

theorem wordsMatcher_blank (hws : Words ws) (k : Matcher) {c : Char} (hc : isBlank c)
    (rest : List Char) (p : Nat) (marks : List Mark) :
    wordsMatcher ws k (c :: rest) p marks = none := by
  refine List.findSome?_eq_none_iff.mpr fun w hw => ?_
  obtain ⟨hne, hletters⟩ := hws w hw
  obtain ⟨l, w, rfl⟩ := List.exists_cons_of_ne_nil hne
  have hl : (caseless l).has c = false := by
    rw [Bool.eq_false_iff]
    intro hhas
    exact absurd hc (not_isBlank_of_has (hletters l List.mem_cons_self) hhas)
  rw [dropCaseless?, dropWord?, hl]
  rfl

/-- A line pattern goes on only from the start of the text: past blanks to one of its words. -/
theorem prefer_lineExpr (ws : List (List Char)) (between : List Expr) (marks : List Mark) :
    (lineExpr ws between).regex.prefer text (fun _ _ marks => some marks) rest p marks =
      if p = 0 then
        Regex.greedily .blank (wordsMatcher ws (restMatcher text between)) rest p marks
      else none := by
  have hrest : (between ++ payloadExprs).foldr (fun e k => e.regex.prefer text k)
      (fun _ _ marks => some marks) = restMatcher text between := by
    rw [List.foldr_append]
    rfl
  rw [lineExpr, Expr.regex_ofItems, Regex.prefer_seqAll, List.foldr_map, List.foldr_cons,
    List.foldr_cons, List.foldr_cons, hrest, prefer_words]
  show (if p == 0 then (Regex.many true (.one .blank)).prefer text _ rest p marks else none) = _
  rw [Regex.prefer_many]
  simp only [beq_iff_eq]

/-! ## Searches -/

/-- The marks of a word that stands behind so many blanks. -/
def wordMarks (blanks : Nat) (w : List Char) : List Mark :=
  [⟨1, false, blanks + w.length⟩, ⟨1, true, blanks⟩]

variable {between : List Expr} {after? : List Char → Option (List Char)}

theorem wordsMatcher_restMatcher (hafter : LeadsTo between after?) (h : Left text rest p) :
    wordsMatcher ws (restMatcher text between) rest p [] = ws.findSome? fun w =>
      ((dropCaseless? w rest).bind after?).map
        (payloadMarks text (wordMarks p w)) := by
  refine congrArg (List.findSome? · ws) (funext fun w => ?_)
  cases hleft : dropCaseless? w rest with
  | none => rfl
  | some left =>
    obtain ⟨front, rfl, hlength⟩ := dropWord?_split hleft
    exact hafter (hlength ▸ h.append) _

/-- A line pattern is matched from the start of the text, behind its leading white space. -/
theorem search_lineExpr (hws : Words ws) (hconsuming : (lineExpr ws between).regex.consuming)
    (hafter : LeadsTo between after?) (text : Array Char) :
    search (lineExpr ws between).regex.program text = ws.findSome? fun w =>
      ((dropCaseless? w (dropBlanks text.toList)).bind after?).map
        (payloadMarks text (wordMarks (text.toList.takeWhile isBlank).length w)) := by
  have hleft := left_dropBlanks_toList text
  have hfirst : (lineExpr ws between).regex.prefer text (fun _ _ marks => some marks)
      (text.toList.drop 0) 0 [] =
      wordsMatcher ws (restMatcher text between) (dropBlanks text.toList)
        (text.toList.takeWhile isBlank).length [] := by
    rw [prefer_lineExpr, if_pos rfl, List.drop_zero, greedily_blanks, Nat.zero_add]
    exact fun c rest p marks hc => wordsMatcher_blank hws _ hc rest p marks
  -- Later starts lead to nothing, since the pattern begins with an anchor.
  have hlater : (((List.range text.size).map Nat.succ).findSome? fun start =>
      (lineExpr ws between).regex.prefer text (fun _ _ marks => some marks)
        (text.toList.drop start) start []) = none := by
    refine List.findSome?_eq_none_iff.mpr fun start hmem => ?_
    obtain ⟨i, -, rfl⟩ := List.mem_map.mp hmem
    rw [prefer_lineExpr, if_neg (Nat.succ_ne_zero i)]
  rw [search_eq_prefer hconsuming, List.range_succ_eq_map, List.findSome?_cons, hlater, hfirst,
    wordsMatcher_restMatcher hafter hleft]
  split
  next h => exact h.symm
  next h => exact h.symm

/-! ## Captures -/

/-- The part of a text that the marks give to a group. -/
def groupText (text : Array Char) (marks : List Mark) (group : Nat) : String :=
  match spanOf? marks group with
  | some (first, last) => String.ofList (text.extract first last).toList
  | none => ""

/-- The groups of a line pattern are the word and the payload. -/
theorem groupText_payloadMarks {blanks : Nat} {w found : List Char}
    (hrest : text.toList.drop blanks = rest) (hfound : found <:+ text.toList) :
    groupText text (payloadMarks text (wordMarks blanks w) found) 1 =
        String.ofList (rest.take w.length) ∧
      groupText text (payloadMarks text (wordMarks blanks w) found) 2 = String.ofList found := by
  have hsize : text.toList.length = text.size := Array.length_toList
  constructor
  · show String.ofList (text.extract blanks (blanks + w.length)).toList = _
    rw [Array.toList_extract, List.extract_eq_take_drop, hrest, Nat.add_sub_cancel_left]
  · show String.ofList (text.extract (text.size - found.length) text.size).toList = _
    have hle := hfound.length_le
    have hdrop := List.suffix_iff_eq_drop.mp hfound
    rw [hsize] at hdrop hle
    rw [Array.toList_extract, List.extract_eq_take_drop, ← hdrop, List.take_of_length_le]
    omega

/-- A line pattern captures the first of its words that the line begins with, and the payload. -/
theorem lineExpr_captures (hws : Words ws) (hconsuming : (lineExpr ws between).regex.consuming)
    (hgroups : (lineExpr ws between).regex.groups = 2) (hafter : LeadsTo between after?)
    (hsuffix : ∀ {rest found}, after? rest = some found → found <:+ rest) (source line : String) :
    (StepPattern.mk source (lineExpr ws between).regex).captures line = ws.findSome? fun w =>
      ((dropCaseless? w (dropBlanks line.toList)).bind after?).map
        fun found =>
          [String.ofList ((dropBlanks line.toList).take w.length), String.ofList found] := by
  have hcaptures : (StepPattern.mk source (lineExpr ws between).regex).captures line =
      (search (lineExpr ws between).regex.program line.toList.toArray).map fun marks =>
        [groupText line.toList.toArray marks 1, groupText line.toList.toArray marks 2] := by
    rw [StepPattern.captures, StepPattern.groups, hgroups]
    rfl
  rw [hcaptures, search_lineExpr hws hconsuming hafter, List.map_findSome?]
  refine congrArg (List.findSome? · ws) (funext fun w => ?_)
  have hdrop := (left_dropBlanks_toList line.toList.toArray).drop
  rw [Function.comp_apply, Option.map_map]
  refine Option.map_congr fun found hfound => ?_
  obtain ⟨left, hleft, hfound⟩ := Option.bind_eq_some_iff.mp hfound
  obtain ⟨front, hfront, -⟩ := dropWord?_split hleft
  have hline : found <:+ line.toList :=
    ((hsuffix hfound).trans ⟨front, hfront.symm⟩).trans (List.dropWhile_suffix isBlank)
  obtain ⟨hword, hpayload⟩ := groupText_payloadMarks hdrop hline
  rw [Function.comp_apply, hword, hpayload]

end

end Pattern

end FeatureScript
