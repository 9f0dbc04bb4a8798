import FeatureScript.Proofs.Grammar.Payload
import FeatureScript.Proofs.Unicode.Case

/-!
# FeatureScript.Proofs.Grammar.Forms

What a line says, told by its form.

`IsPayload`, `Heading` and `StepLine` say what a payload, a heading and a step are, without a word
on how they are looked for. The recognisers of the line grammar decide them (`payload?_iff`,
`heading?_iff`, `stepText?_iff`). The first letter of a line tells the forms apart
(`Heading.not_step`, `StepLine.unique`), so it makes no difference which is tried first.
-/

namespace FeatureScript
namespace Grammar

open Text Unicode

/-! ## Forms -/

/-- The payload of what follows a keyword: what stands behind its leading white space or, where
there is nothing but white space, the last character. It has no line feed. -/
inductive IsPayload : List Char → List Char → Prop
  | text {blanks found : List Char} (hblanks : ∀ c ∈ blanks, isBlank c) (hne : found ≠ [])
      (hhead : ∀ c ∈ found.head?, isBlank c = false) (hline : '\n' ∉ found) :
      IsPayload (blanks ++ found) found
  | blank {blanks : List Char} {c : Char} (hblanks : ∀ b ∈ blanks, isBlank b) (hc : isBlank c)
      (hline : c ≠ '\n') : IsPayload (blanks ++ [c]) [c]

/-- The line, which begins with no white space, is the heading `name` with the label. -/
def Heading (name : String) (line label : List Char) : Prop :=
  ∃ word blanks rest, line = word ++ (blanks ++ ':' :: rest) ∧
    word.map (fun c => fold c.toNat) = name.toList.map (fun c => fold c.toNat) ∧
    (∀ c ∈ blanks, isBlank c) ∧ IsPayload rest label

/-- The line, which begins with no white space, is a step under `k` with the text. -/
def StepLine (k : Keyword) (line text : List Char) : Prop :=
  ∃ word blank rest, line = word ++ blank :: rest ∧
    word.map Char.toLower = k.name.toList.map Char.toLower ∧ isBlank blank ∧ IsPayload rest text

/-! ## Payloads -/

theorem dropBlanks_append {blanks : List Char} (h : ∀ c ∈ blanks, isBlank c) (rest : List Char) :
    dropBlanks (blanks ++ rest) = dropBlanks rest := List.dropWhile_append_of_pos h

theorem dropBlanks_split (cs : List Char) :
    ∃ blanks, (∀ c ∈ blanks, isBlank c) ∧ cs = blanks ++ dropBlanks cs :=
  ⟨cs.takeWhile isBlank, fun _ => List.mem_takeWhile_imp, List.takeWhile_append_dropWhile.symm⟩

theorem payload?_iff {rest found : List Char} :
    payload? rest = some found ↔ IsPayload rest found := by
  constructor
  · intro h
    obtain ⟨blanks, hblanks, hrest⟩ := dropBlanks_split rest
    unfold payload? at h
    split at h
    next hdrop =>
      rw [hdrop, List.append_nil] at hrest
      split at h
      next c hlast =>
        split at h
        next => cases h
        next hc =>
          cases h
          obtain ⟨front, rfl⟩ := List.getLast?_eq_some_iff.mp hlast
          rw [← hrest] at hblanks
          exact .blank (fun b hb => hblanks b (List.mem_append_left _ hb))
            (hblanks c (List.mem_append_right _ (List.mem_singleton_self c))) hc
      next => cases h
    next hne =>
      split at h
      next => cases h
      next hline =>
        cases h
        have htext := IsPayload.text hblanks hne (isBlank_head_dropBlanks rest) hline
        rwa [← hrest] at htext
  · intro h
    cases h with
    | text hblanks hne hhead hline =>
      obtain ⟨c, cs, rfl⟩ := List.exists_cons_of_ne_nil hne
      rw [payload?, dropBlanks_append hblanks, dropBlanks_of_head (hhead c rfl)]
      exact if_neg hline
    | @blank blanks c hblanks hc hline =>
      have hdrop : dropBlanks (blanks ++ [c]) = [] := by
        rw [dropBlanks_append hblanks, dropBlanks, List.dropWhile_cons_of_pos hc]
        rfl
      rw [payload?, hdrop, List.getLast?_concat]
      exact if_neg hline

/-! ## Words -/

theorem dropWord?_iff {κ : Type} [BEq κ] [LawfulBEq κ] (key : Char → κ)
    (word rest left : List Char) :
    dropWord? (fun a b => key a == key b) word rest = some left ↔
      ∃ front, rest = front ++ left ∧ front.map key = word.map key := by
  induction word generalizing rest with
  | nil => simp [dropWord?, eq_comm]
  | cons w word ih =>
    cases rest with
    | nil => simp [dropWord?]
    | cons c rest =>
      have hfront : (∃ front, c :: rest = front ++ left ∧ front.map key = key w :: word.map key) ↔
          key w = key c ∧ ∃ front, rest = front ++ left ∧ front.map key = word.map key := by
        constructor
        · rintro ⟨_ | ⟨b, front⟩, hrest, hfront⟩
          · cases hfront
          · rw [List.cons_append, List.cons.injEq] at hrest
            rw [List.map_cons, List.cons.injEq] at hfront
            exact ⟨by rw [hrest.1, hfront.1], front, hrest.2, hfront.2⟩
        · rintro ⟨hc, front, rfl, hfront⟩
          exact ⟨c :: front, rfl, by rw [List.map_cons, hc, hfront]⟩
      rw [dropWord?, List.map_cons, hfront, ← ih]
      split
      next hc => simp [eq_of_beq hc]
      next hc => simp [ne_of_beq_false (Bool.eq_false_iff.mpr hc)]

theorem heading?_iff {name : String} {line label : List Char} :
    heading? name line = some label ↔ Heading name line label := by
  have hword : ∀ left, dropWord? sameFolded name.toList line = some left ↔ _ :=
    dropWord?_iff (fun c => fold c.toNat) name.toList line
  unfold heading?
  constructor
  · intro h
    split at h
    next => cases h
    next left hleft =>
      obtain ⟨word, rfl, hfold⟩ := (hword left).mp hleft
      split at h
      next rest hrest =>
        obtain ⟨blanks, hblanks, hsplit⟩ := dropBlanks_split left
        rw [hrest] at hsplit
        exact ⟨word, blanks, rest, by rw [hsplit], hfold, hblanks, payload?_iff.mp h⟩
      next => cases h
  · rintro ⟨word, blanks, rest, hline, hfold, hblanks, hpayload⟩
    have hcolon : dropBlanks (blanks ++ ':' :: rest) = ':' :: rest := by
      rw [dropBlanks_append hblanks, dropBlanks_of_head (by decide)]
    rw [(hword _).mpr ⟨word, hline, hfold⟩]
    simp only [hcolon]
    exact payload?_iff.mpr hpayload

theorem stepText?_iff {k : Keyword} {line text : List Char} :
    stepText? k line = some text ↔ StepLine k line text := by
  have hword : ∀ left, dropWord? sameLetter k.name.toList line = some left ↔ _ :=
    dropWord?_iff Char.toLower k.name.toList line
  unfold stepText?
  constructor
  · intro h
    split at h
    next blank rest hleft =>
      obtain ⟨word, hline, hlower⟩ := (hword _).mp hleft
      split at h
      next hblank => exact ⟨word, blank, rest, hline, hlower, hblank, payload?_iff.mp h⟩
      next => cases h
    next => cases h
  · rintro ⟨word, blank, rest, hline, hlower, hblank, hpayload⟩
    rw [(hword _).mpr ⟨word, hline, hlower⟩]
    exact (if_pos hblank).trans (payload?_iff.mpr hpayload)

/-! ## First letters -/

/-- Letters that agree up to the case of ASCII letters agree under simple case folding. -/
theorem fold_toLower (c : Char) : fold c.toLower.toNat = fold c.toNat := by
  have hletters : ∀ n ∈ List.range' 65 26, fold (n + 32) = fold n := by decide
  rw [toNat_toLower]
  split
  next hupper => exact hletters _ (List.mem_range'_1.mpr ⟨hupper.1, by omega⟩)
  next => rfl

def firstFold (line : List Char) : Option Nat := line.head?.map fun c => fold c.toNat

theorem firstFold_append {word name rest : List Char}
    (h : word.map (fun c => fold c.toNat) = name.map (fun c => fold c.toNat)) (hne : name ≠ []) :
    firstFold (word ++ rest) = firstFold name := by
  obtain ⟨b, name, rfl⟩ := List.exists_cons_of_ne_nil hne
  cases word with
  | nil => cases h
  | cons c word =>
    rw [List.map_cons, List.map_cons, List.cons.injEq] at h
    exact congrArg some h.1

section

variable {name : String} {k : Keyword} {line label text : List Char}

theorem Heading.firstFold (h : Heading name line label) (hne : name.toList ≠ []) :
    firstFold line = Grammar.firstFold name.toList := by
  obtain ⟨word, blanks, rest, rfl, hfold, -⟩ := h
  exact firstFold_append hfold hne

theorem StepLine.firstFold (h : StepLine k line text) :
    firstFold line = Grammar.firstFold k.name.toList := by
  obtain ⟨word, blank, rest, rfl, hlower, -⟩ := h
  -- A keyword is compared as ASCII and a heading by folding; folding is the coarser of the two.
  refine firstFold_append ?_ (by cases k <;> decide)
  have hfold := congrArg (List.map fun c : Char => fold c.toNat) hlower
  simpa only [List.map_map, Function.comp_def, fold_toLower] using hfold

/-- A line is not both a heading and a step. -/
theorem Heading.not_step (h : Heading name line label)
    (hname : name = "feature" ∨ name = "scenario") : ¬StepLine k line text := by
  intro hstep
  have hne : name.toList ≠ [] := by rcases hname with rfl | rfl <;> decide
  have hfirst := hstep.firstFold.symm.trans (h.firstFold hne)
  revert hfirst
  rcases hname with rfl | rfl <;> cases k <;> decide

/-- A line is a step under one keyword only. -/
theorem StepLine.unique {j : Keyword} {text' : List Char} (h : StepLine k line text)
    (h' : StepLine j line text') : k = j := by
  have hfirst := h.firstFold.symm.trans h'.firstFold
  revert hfirst
  cases k <;> cases j <;> decide

theorem Heading.not_feature (h : Heading "scenario" line label) : ¬Heading "feature" line text := by
  intro h'
  have hfirst := (h.firstFold (by decide)).symm.trans (h'.firstFold (by decide))
  revert hfirst
  decide

end

/-! ## Lines -/

/-- What a line says that begins with no white space. -/
def Says (line : List Char) : Token → Prop
  | .feature label => Heading "feature" line label.toList
  | .scenario label => Heading "scenario" line label.toList
  | .step k text => StepLine k line text.toList
  | .text => (∀ label, ¬Heading "feature" line label ∧ ¬Heading "scenario" line label) ∧
      ∀ k text, ¬StepLine k line text

theorem Heading.label_unique {name : String} {line label label' : List Char}
    (h : Heading name line label) (h' : Heading name line label') : label = label' :=
  Option.some.inj ((heading?_iff.mpr h).symm.trans (heading?_iff.mpr h'))

theorem StepLine.text_unique {k : Keyword} {line text text' : List Char}
    (h : StepLine k line text) (h' : StepLine k line text') : text = text' :=
  Option.some.inj ((stepText?_iff.mpr h).symm.trans (stepText?_iff.mpr h'))

/-- A line says one thing only. -/
theorem Says.unique {line : List Char} {t u : Token} (ht : Says line t) (hu : Says line u) :
    t = u := by
  cases t with
  | feature label =>
    cases u with
    | feature label' => rw [String.toList_inj.mp (Heading.label_unique ht hu)]
    | scenario label' => exact absurd ht (Heading.not_feature hu)
    | step k text => exact absurd hu (Heading.not_step ht (.inl rfl))
    | text => exact absurd ht (hu.1 _).1
  | scenario label =>
    cases u with
    | feature label' => exact absurd hu (Heading.not_feature ht)
    | scenario label' => rw [String.toList_inj.mp (Heading.label_unique ht hu)]
    | step k text => exact absurd hu (Heading.not_step ht (.inr rfl))
    | text => exact absurd ht (hu.1 _).2
  | step k text =>
    cases u with
    | feature label => exact absurd ht (Heading.not_step hu (.inl rfl))
    | scenario label => exact absurd ht (Heading.not_step hu (.inr rfl))
    | step j text' =>
      obtain rfl := StepLine.unique ht hu
      rw [String.toList_inj.mp (StepLine.text_unique ht hu)]
    | text => exact absurd ht (hu.2 _ _)
  | text =>
    cases u with
    | feature label => exact absurd hu (ht.1 _).1
    | scenario label => exact absurd hu (ht.1 _).2
    | step k text => exact absurd hu (ht.2 _ _)
    | text => rfl

theorem heading?_eq_none {name : String} {line : List Char} :
    heading? name line = none ↔ ∀ label, ¬Heading name line label := by
  simp only [← heading?_iff]
  exact Option.eq_none_iff_forall_ne_some

theorem says_of_step? {line : List Char} {t : Token} (h : step? line = some t) : Says line t := by
  obtain ⟨k, -, hk⟩ := List.exists_of_findSome?_eq_some h
  obtain ⟨text, htext, rfl⟩ := Option.map_eq_some_iff.mp hk
  show StepLine k line (String.ofList text).toList
  rw [String.toList_ofList]
  exact stepText?_iff.mp htext

theorem step?_eq_none {line : List Char} (h : step? line = none) (k : Keyword) (text : List Char) :
    ¬StepLine k line text := by
  intro hstep
  have hk := List.findSome?_eq_none_iff.mp h k (by cases k <;> decide)
  rw [stepText?_iff.mpr hstep] at hk
  cases hk

theorem says_token (line : List Char) : Says (dropBlanks line) (token line) := by
  unfold token
  dsimp only
  split
  next label hlabel =>
    show Heading "feature" (dropBlanks line) (String.ofList label).toList
    rw [String.toList_ofList]
    exact heading?_iff.mp hlabel
  next hfeature =>
    split
    next label hlabel =>
      show Heading "scenario" (dropBlanks line) (String.ofList label).toList
      rw [String.toList_ofList]
      exact heading?_iff.mp hlabel
    next hscenario =>
      cases hstep : step? (dropBlanks line) with
      | some t => exact says_of_step? hstep
      | none =>
        exact ⟨fun label => ⟨heading?_eq_none.mp hfeature label,
          heading?_eq_none.mp hscenario label⟩, step?_eq_none hstep⟩

/-- The line grammar: what a line says is told by what follows its leading white space. -/
theorem token_iff {line : List Char} {t : Token} : token line = t ↔ Says (dropBlanks line) t :=
  ⟨fun h => h ▸ says_token line, fun h => (says_token line).unique h⟩

theorem toLower_of_isBlank {c : Char} (h : isBlank c = true) : c.toLower = c := by
  have hletters : ∀ n ∈ List.range' 65 26, blankRanges.has n = false := by decide
  rw [← Char.toNat_inj, toNat_toLower]
  split
  next hupper =>
    have hblank := hletters c.toNat (List.mem_range'_1.mpr ⟨hupper.1, by omega⟩)
    rw [isBlank, hblank] at h
    cases h
  next => rfl

/-- The word that opens a step is read as its keyword. -/
theorem parse_of_lower {k : Keyword} {word : List Char}
    (h : word.map Char.toLower = k.name.toList.map Char.toLower) :
    Keyword.parse (String.ofList word) = .ok k := by
  have hname : (k.name.toList.map Char.toLower).all (fun c => !isBlank c) = true := by
    cases k <;> decide
  have hword : ∀ c ∈ word, isBlank c = false := by
    intro c hc
    rw [Bool.eq_false_iff]
    intro hblank
    have hmem : c ∈ k.name.toList.map Char.toLower := by
      rw [← h, ← toLower_of_isBlank hblank]
      exact List.mem_map_of_mem hc
    have hplain := List.all_eq_true.mp hname c hmem
    rw [hblank] at hplain
    cases hplain
  have htrim : trim word = word :=
    trim_eq_self (fun c hc => hword c (List.mem_of_mem_head? hc))
      (fun c hc => hword c (List.mem_of_getLast? hc))
  rw [Keyword.parse, String.toList_ofList, htrim]
  simp only [Keyword.sameLetters, h]
  cases k <;> rfl

end Grammar
end FeatureScript
