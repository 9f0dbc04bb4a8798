import FeatureScript.Proofs.Grammar.Forms

/-!
# FeatureScript.Proofs.Grammar.Bare

Lines that open as a heading or a step and then have nothing but white space.

`Opens kind front` says that `front` is the name of a heading with its colon, or a keyword, and
`Bare kind line tail` that the line has only the white space `tail` behind it. A line says nothing but
what it is opened for (`Opens.says_cases`), so a bare line says what `blankPayload?` finds in `tail`
(`token_of_bare`): its last character is taken for the payload, unless it is a line feed or, behind a
keyword, the only one. `payload_blank_of_bare`: no other line has a payload of white space.
-/

namespace FeatureScript

open Text Unicode

/-- The label of a heading, or the text of a step. -/
def Token.payload? : Token → Option String
  | .feature payload | .scenario payload | .step _ payload => some payload
  | .text => none

/-- The token of a kind with a payload. -/
def LineKind.token (payload : String) : LineKind → Token
  | .feature => .feature payload
  | .scenario => .scenario payload
  | .step k => .step k payload
  | .unknown => .text

theorem Token.eq_kind_token {t : Token} (h : t ≠ .text) :
    t.kind ≠ .unknown ∧ ∃ payload, t = t.kind.token payload := by
  cases t with
  | text => exact absurd rfl h
  | feature payload | scenario payload | step k payload => exact ⟨nofun, payload, rfl⟩

namespace Grammar

/-! ## What opens a line -/

/-- The name of a heading and its colon. -/
def OpensHeading (name : String) (front : List Char) : Prop :=
  ∃ word blanks, front = word ++ (blanks ++ [':']) ∧
    word.map (fun c => fold c.toNat) = name.toList.map (fun c => fold c.toNat) ∧
    ∀ c ∈ blanks, isBlank c

/-- What opens the lines of a kind: a heading up to its colon, or a keyword. -/
def Opens : LineKind → List Char → Prop
  | .feature, front => OpensHeading "feature" front
  | .scenario, front => OpensHeading "scenario" front
  | .step k, front => front.map Char.toLower = k.name.toList.map Char.toLower
  | .unknown, _ => False

/-- The kinds of lines that are opened by something. -/
def openKinds : List LineKind := [.feature, .scenario] ++ Keyword.all.map .step

theorem mem_openKinds {kind : LineKind} (h : kind ≠ .unknown) : kind ∈ openKinds := by
  cases kind with
  | feature => decide
  | scenario => decide
  | step k => cases k <;> decide
  | unknown => exact absurd rfl h

/-- The first letter of the lines of a kind, in either case. -/
def initial (kind : LineKind) : Option Nat := firstFold kind.name.toList

theorem initial_feature : initial .feature = firstFold "feature".toList := by decide

theorem initial_scenario : initial .scenario = firstFold "scenario".toList := by decide

theorem initial_injective : ∀ j ∈ openKinds, ∀ k ∈ openKinds, initial j = initial k → j = k := by
  decide

section

variable {kind : LineKind} {front tail line : List Char}

theorem Opens.ne_unknown (h : Opens kind front) : kind ≠ .unknown := by
  rintro rfl
  exact h

theorem OpensHeading.firstFold {name : String} (h : OpensHeading name front)
    (hne : name.toList ≠ []) : firstFold (front ++ tail) = Grammar.firstFold name.toList := by
  obtain ⟨word, blanks, rfl, hfold, -⟩ := h
  rw [List.append_assoc]
  exact firstFold_append hfold hne

theorem Opens.initial (h : Opens kind front) : firstFold (front ++ tail) = initial kind := by
  cases kind with
  | feature => exact (OpensHeading.firstFold h (by decide)).trans initial_feature.symm
  | scenario => exact (OpensHeading.firstFold h (by decide)).trans initial_scenario.symm
  | step k =>
    have hfold := congrArg (List.map fun c : Char => fold c.toNat) h
    simp only [List.map_map, Function.comp_def, fold_toLower] at hfold
    exact firstFold_append hfold (by cases k <;> decide)
  | unknown => exact h.elim

theorem Says.initial {t : Token} (h : Says line t) (ht : t ≠ .text) :
    firstFold line = initial t.kind := by
  cases t with
  | feature label => exact (Heading.firstFold h (by decide)).trans initial_feature.symm
  | scenario label => exact (Heading.firstFold h (by decide)).trans initial_scenario.symm
  | step k text => exact StepLine.firstFold h
  | text => exact absurd rfl ht

theorem Opens.says_cases (h : Opens kind front) {t : Token} (htold : Says (front ++ tail) t) :
    t = .text ∨ ∃ payload, t = kind.token payload := by
  -- kinds differ in their first letters, and the line has only one
  by_cases ht : t = .text
  · exact .inl ht
  · obtain ⟨hkind, payload, heq⟩ := Token.eq_kind_token ht
    have hinitial := (htold.initial ht).symm.trans h.initial
    have hsame := initial_injective _ (mem_openKinds hkind) _ (mem_openKinds h.ne_unknown) hinitial
    exact .inr ⟨payload, hsame ▸ heq⟩

end

/-! ## White space as payload -/

section

variable {kind : LineKind} {front tail rest : List Char}

theorem payload?_of_blank (h : ∀ c ∈ rest, isBlank c) :
    payload? rest = (rest.getLast?.filter (· ≠ '\n')).map fun c => [c] := by
  have hdrop : dropBlanks rest = [] := List.dropWhile_eq_nil_iff.mpr h
  rw [payload?, hdrop]
  cases hlast : rest.getLast? with
  | none => rfl
  | some c => by_cases hc : c = '\n' <;> simp [hc, Option.filter]

theorem OpensHeading.heading? {name : String} (h : OpensHeading name front) :
    heading? name (front ++ rest) = payload? rest := by
  obtain ⟨word, blanks, rfl, hfold, hblanks⟩ := h
  have hword : dropWord? sameFolded name.toList (word ++ (blanks ++ [':']) ++ rest) =
      some (blanks ++ ':' :: rest) :=
    (dropWord?_iff (fun c => fold c.toNat) name.toList _ _).mpr ⟨word, by simp, hfold⟩
  have hcolon : dropBlanks (blanks ++ ':' :: rest) = ':' :: rest := by
    rw [dropBlanks_append hblanks, dropBlanks_of_head (by decide)]
  rw [Grammar.heading?, hword]
  simp only [hcolon]

theorem Opens.stepText? {k : Keyword} (h : Opens (.step k) front) (htail : ∀ c ∈ tail, isBlank c) :
    stepText? k (front ++ tail) = payload? (tail.drop 1) := by
  have hword : dropWord? sameLetter k.name.toList (front ++ tail) = some tail :=
    (dropWord?_iff Char.toLower k.name.toList _ _).mpr ⟨front, rfl, h⟩
  rw [Grammar.stepText?, hword]
  cases tail with
  | nil => rfl
  | cons c rest => exact if_pos (htail c List.mem_cons_self)

/-- The white space that is taken for a payload when nothing else follows: the last character,
unless it is a line feed. The first one behind a keyword only ends the keyword. -/
def blankPayload? (kind : LineKind) (tail : List Char) : Option Char :=
  let rest := match kind with
    | .step _ => tail.drop 1
    | .feature | .scenario | .unknown => tail
  rest.getLast?.filter (· ≠ '\n')

theorem Opens.says_iff (h : Opens kind front) (htail : ∀ c ∈ tail, isBlank c) (payload : String) :
    Says (front ++ tail) (kind.token payload) ↔
      (blankPayload? kind tail).map String.singleton = some payload := by
  have hpayload : ∀ found : Option Char,
      (found.map fun c => [c]) = some payload.toList ↔ found.map String.singleton = some payload := by
    rintro (_ | c)
    · simp
    · simp [← String.toList_inj]
  cases kind with
  | feature =>
    rw [blankPayload?, ← hpayload, ← payload?_of_blank htail, ← OpensHeading.heading? h]
    exact heading?_iff.symm
  | scenario =>
    rw [blankPayload?, ← hpayload, ← payload?_of_blank htail, ← OpensHeading.heading? h]
    exact heading?_iff.symm
  | step k =>
    have hrest : ∀ c ∈ tail.drop 1, isBlank c := fun c hc => htail c (List.mem_of_mem_drop hc)
    rw [blankPayload?, ← hpayload, ← payload?_of_blank hrest, ← h.stepText? htail]
    exact stepText?_iff.symm
  | unknown => exact h.elim

end

/-! ## Bare lines -/

/-- Behind its leading white space, the line is opened and then has only the white space `tail`. -/
def Bare (kind : LineKind) (line tail : List Char) : Prop :=
  ∃ front, dropBlanks line = front ++ tail ∧ Opens kind front ∧ ∀ c ∈ tail, isBlank c

section

variable {kind : LineKind} {line tail : List Char}

theorem token_of_bare (h : Bare kind line tail) :
    token line = match blankPayload? kind tail with
      | some c => kind.token (String.singleton c)
      | none => .text := by
  obtain ⟨front, hline, hopens, htail⟩ := h
  rw [token_iff, hline]
  cases hpayload : blankPayload? kind tail with
  | some c => exact (hopens.says_iff htail _).mpr (by rw [hpayload]; rfl)
  | none =>
    -- what the line says is of this kind or text, and there is no payload for this kind
    have htold : Says (front ++ tail) (token line) := hline ▸ says_token line
    rcases hopens.says_cases htold with htoken | ⟨payload, htoken⟩
    · rwa [htoken] at htold
    · rw [htoken, hopens.says_iff htail, hpayload] at htold
      cases htold

/-- A payload of white space is the last character of the white space behind a bare opening. -/
theorem IsPayload.eq_last {rest found : List Char} (h : IsPayload rest found)
    (hfound : ∀ c ∈ found, isBlank c) :
    ∃ c, found = [c] ∧ (∀ b ∈ rest, isBlank b) ∧ rest.getLast? = some c ∧ c ≠ '\n' := by
  cases h with
  | text hblanks hne hhead hline =>
    obtain ⟨c, cs, rfl⟩ := List.exists_cons_of_ne_nil hne
    have hplain := hhead c rfl
    rw [hfound c List.mem_cons_self] at hplain
    cases hplain
  | @blank blanks c hblanks hc hline =>
    refine ⟨c, rfl, fun b hb => ?_, List.getLast?_concat, hline⟩
    rcases List.mem_append.mp hb with hb | hb
    · exact hblanks b hb
    · rwa [List.mem_singleton.mp hb]

theorem bare_of_heading {name label : String} (hopens : ∀ front, OpensHeading name front →
      Opens kind front)
    (hblank : ∀ tail, blankPayload? kind tail = tail.getLast?.filter (· ≠ '\n'))
    (h : Heading name (dropBlanks line) label.toList) (hlabel : ∀ c ∈ label.toList, isBlank c) :
    ∃ tail c, Bare kind line tail ∧ blankPayload? kind tail = some c ∧
      label = String.singleton c := by
  obtain ⟨word, blanks, rest, hline, hfold, hblanks, hpayload⟩ := h
  obtain ⟨c, hsingle, hrest, hlast, hc⟩ := hpayload.eq_last hlabel
  have hfront : OpensHeading name (word ++ (blanks ++ [':'])) := ⟨word, blanks, rfl, hfold, hblanks⟩
  refine ⟨rest, c, ⟨word ++ (blanks ++ [':']), by simp [hline], hopens _ hfront, hrest⟩, ?_, ?_⟩
  · rw [hblank, hlast]
    simp [hc]
  · rw [← String.toList_inj, hsingle, String.toList_singleton]

theorem bare_of_step {k : Keyword} {text : String} (h : StepLine k (dropBlanks line) text.toList)
    (htext : ∀ c ∈ text.toList, isBlank c) :
    ∃ tail c, Bare (.step k) line tail ∧ blankPayload? (.step k) tail = some c ∧
      text = String.singleton c := by
  obtain ⟨word, blank, rest, hline, hword, hblank, hpayload⟩ := h
  obtain ⟨c, hsingle, hrest, hlast, hc⟩ := hpayload.eq_last htext
  have htail : ∀ d ∈ blank :: rest, isBlank d := List.forall_mem_cons.mpr ⟨hblank, hrest⟩
  refine ⟨blank :: rest, c, ⟨word, hline, hword, htail⟩, ?_, ?_⟩
  · simp [blankPayload?, hlast, hc]
  · rw [← String.toList_inj, hsingle, String.toList_singleton]

theorem bare_of_payload {payload : String} (h : (token line).payload? = some payload)
    (hpayload : ∀ c ∈ payload.toList, isBlank c) :
    ∃ kind tail c, Bare kind line tail ∧ blankPayload? kind tail = some c ∧
      payload = String.singleton c := by
  have htold := says_token line
  cases htoken : token line with
  | feature label =>
    rw [htoken] at h htold
    cases h
    exact ⟨.feature, bare_of_heading (fun _ h => h) (fun _ => rfl) htold hpayload⟩
  | scenario label =>
    rw [htoken] at h htold
    cases h
    exact ⟨.scenario, bare_of_heading (fun _ h => h) (fun _ => rfl) htold hpayload⟩
  | step k text =>
    rw [htoken] at h htold
    cases h
    exact ⟨.step k, bare_of_step htold hpayload⟩
  | text =>
    rw [htoken] at h
    cases h

end

end Grammar

open Grammar

/-- A heading or a step has a payload with a character that is no white space, unless nothing but
white space stands behind its colon or keyword. Then the last character of the white space is the
payload; the line is plain text if that is a line feed, if nothing follows the colon, or if no more
than one character follows the keyword. -/
theorem payload_blank_of_bare (line : String) :
    (∀ payload, (classify line).payload? = some payload →
      (∃ c ∈ payload.toList, isBlank c = false) ∨
        ∃ kind tail c, Bare kind line.toList tail ∧ blankPayload? kind tail = some c ∧
          payload = String.singleton c) ∧
    ∀ kind tail, Bare kind line.toList tail →
      classify line = match blankPayload? kind tail with
        | some c => kind.token (String.singleton c)
        | none => .text := by
  refine ⟨fun payload h => ?_, fun kind tail h => token_of_bare h⟩
  by_cases hblank : ∀ c ∈ payload.toList, isBlank c
  · exact .inr (bare_of_payload h hblank)
  · simp only [not_forall, Bool.not_eq_true] at hblank
    obtain ⟨c, hc, hplain⟩ := hblank
    exact .inl ⟨c, hc, hplain⟩

/-- White space behind a keyword or a colon makes a step or a heading of a line of text. -/
theorem blank_payload_taken :
    classify "Given" = .text ∧ classify "Given " = .text ∧ classify "Given  " = .step .given " " ∧
      classify "Feature:" = .text ∧ classify "Feature: " = .feature " " ∧
      ¬∀ line payload, (classify line).payload? = some payload →
        ∃ c ∈ payload.toList, isBlank c = false := by
  have hgiven : classify "Given  " = .step .given " " := by decide
  refine ⟨by decide, by decide, hgiven, by decide, by decide, fun h => ?_⟩
  obtain ⟨c, hc, hplain⟩ := h "Given  " " " (by rw [hgiven]; rfl)
  rw [List.mem_singleton.mp (show c ∈ [' '] from hc)] at hplain
  revert hplain
  decide

end FeatureScript
