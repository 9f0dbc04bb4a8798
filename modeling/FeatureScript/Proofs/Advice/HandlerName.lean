import FeatureScript.Proofs.Advice.Provider
import FeatureScript.Proofs.Text.Runs
import Mathlib.Data.List.Forall2

/-!
# FeatureScript.Proofs.Advice.HandlerName

What the name of a handler keeps of a step.

The words of a step text are its maximal runs of ASCII letters (`Advice.words_iff`). Cut at its
underscores, a name falls into the keyword and the words in small letters
(`Advice.split_handlerName`). None of these parts is empty, and two names are the same just if their
parts are. `handler_name_remembers_words` puts this together: a name is an identifier, and all that
it keeps is the keyword and the letters of the words, in either case.
-/

namespace FeatureScript

theorem Keyword.toList_lowerName (k : Keyword) :
    k.lowerName.toList = k.name.toList.map Char.toLower := by
  cases k <;> decide

theorem Keyword.lowerName_inj {k k' : Keyword} : k.lowerName = k'.lowerName ↔ k = k' := by
  cases k <;> cases k' <;> decide

namespace Advice

open Text

/-! ## Letters -/

/-- A small letter of ASCII. -/
def IsSmall (c : Char) : Prop := 'a' ≤ c ∧ c ≤ 'z'

/-- A letter of ASCII. -/
def IsLetter (c : Char) : Prop := IsSmall c ∨ 'A' ≤ c ∧ c ≤ 'Z'

theorem isAlpha_iff {c : Char} : c.isAlpha = true ↔ IsLetter c := by
  have halpha : c.isAlpha = (c.isUpper || c.isLower) := rfl
  have hupper : c.isUpper = true ↔ 'A' ≤ c ∧ c ≤ 'Z' := decide_eq_true_iff
  have hlower : c.isLower = true ↔ IsSmall c :=
    (Bool.and_eq_true_iff ..).trans (and_congr decide_eq_true_iff decide_eq_true_iff)
  rw [halpha, Bool.or_eq_true, hupper, hlower, or_comm, IsLetter]

theorem isSmall_iff {c : Char} : IsSmall c ↔ 97 ≤ c.toNat ∧ c.toNat ≤ 122 := .rfl

theorem isLetter_iff {c : Char} :
    IsLetter c ↔ 97 ≤ c.toNat ∧ c.toNat ≤ 122 ∨ 65 ≤ c.toNat ∧ c.toNat ≤ 90 := .rfl

theorem IsSmall.isLetter {c : Char} (h : IsSmall c) : IsLetter c := .inl h

theorem IsLetter.isSmall_toLower {c : Char} (h : IsLetter c) : IsSmall c.toLower := by
  rw [isLetter_iff] at h
  rw [isSmall_iff, Unicode.toNat_toLower]
  split <;> omega

theorem IsSmall.toLower {c : Char} (h : IsSmall c) : c.toLower = c := by
  rw [isSmall_iff] at h
  rw [← Char.toNat_inj, Unicode.toNat_toLower, if_neg (by omega)]

theorem IsSmall.ne_underscore {c : Char} (h : IsSmall c) : c ≠ '_' := by
  rintro rfl
  exact absurd h (by unfold IsSmall; decide)

theorem not_isLetter_underscore : ¬IsLetter '_' := by
  unfold IsLetter IsSmall
  decide

/-! ## Words -/

/-- Behind the letters that are read of a first word, if any are, the words of the rest follow. -/
theorem runs_of_first {current back : List Char} {ws : List (List Char)}
    (hcurrent : ∀ c ∈ current, IsLetter c) (hback : ∀ c ∈ back.head?, ¬IsLetter c)
    (h : Runs IsLetter back ws) :
    Runs IsLetter (current.reverse ++ back)
      (if current.isEmpty then ws else current.reverse :: ws) := by
  cases current with
  | nil => exact h
  | cons c current =>
    exact .take (by simp) (fun d hd => hcurrent d (List.mem_reverse.mp hd)) hback h

theorem wordsFrom_runs {current : List Char} (hcurrent : ∀ c ∈ current, IsLetter c)
    (cs : List Char) : Runs IsLetter (current.reverse ++ cs) (wordsFrom current cs) := by
  induction cs generalizing current with
  | nil => exact runs_of_first hcurrent nofun .nil
  | cons c rest ih =>
    rw [wordsFrom]
    split
    next hletter =>
      have hmore := ih (List.forall_mem_cons.mpr ⟨isAlpha_iff.mp hletter, hcurrent⟩)
      rwa [List.reverse_cons, List.append_assoc] at hmore
    next hletter =>
      have hc : ¬IsLetter c := fun h => hletter (isAlpha_iff.mpr h)
      have hrest : Runs IsLetter rest (wordsFrom [] rest) := ih (List.forall_mem_nil _)
      exact runs_of_first hcurrent (by simpa using hc) (hrest.skip hc)

/-- The words of a text are its runs of letters. -/
theorem words_iff {cs : List Char} {ws : List (List Char)} :
    Runs IsLetter cs ws ↔ words cs = ws := by
  have hwords : Runs IsLetter cs (words cs) := wordsFrom_runs (List.forall_mem_nil _) cs
  exact ⟨hwords.unique, fun h => h ▸ hwords⟩

/-- Small letters, at least one of them. -/
structure IsSmallWord (word : List Char) : Prop where
  nonempty : word ≠ []
  small : ∀ c ∈ word, IsSmall c

theorem IsSmallWord.not_mem {word : List Char} (h : IsSmallWord word) : '_' ∉ word :=
  fun hmem => (h.small '_' hmem).ne_underscore rfl

theorem isSmallWord_map {word : List Char} (hne : word ≠ []) (hletters : ∀ c ∈ word, IsLetter c) :
    IsSmallWord (word.map Char.toLower) := by
  refine ⟨fun hnil => hne (List.map_eq_nil_iff.mp hnil), fun c hc => ?_⟩
  obtain ⟨d, hd, rfl⟩ := List.mem_map.mp hc
  exact (hletters d hd).isSmall_toLower

theorem isSmallWord_lowerName (k : Keyword) : IsSmallWord k.lowerName.toList := by
  have hne : k.name.toList ≠ [] := by cases k <;> decide
  have hletters : k.name.toList.all Char.isAlpha = true := by cases k <;> decide
  rw [k.toList_lowerName]
  exact isSmallWord_map hne fun c hc => isAlpha_iff.mp (List.all_eq_true.mp hletters c hc)

theorem IsSmallWord.toLower {word : List Char} (h : IsSmallWord word) :
    word.map Char.toLower = word :=
  (List.map_congr_left fun c hc => (h.small c hc).toLower).trans (List.map_id word)

/-- The words of a text in small letters. -/
def smallWords (text : String) : List (List Char) :=
  (words text.toList).map (·.map Char.toLower)

theorem isSmallWord_of_mem {text : String} : ∀ word ∈ smallWords text, IsSmallWord word := by
  intro word hword
  obtain ⟨w, hw, rfl⟩ := List.mem_map.mp hword
  obtain ⟨hne, hletters⟩ := (words_iff.mpr rfl).of_mem hw
  exact isSmallWord_map hne hletters

/-- Two texts have the same words in small letters just if their words agree up to case. -/
theorem smallWords_eq_iff {text text' : String} :
    smallWords text = smallWords text' ↔
      ∃ ws ws', Runs IsLetter text.toList ws ∧ Runs IsLetter text'.toList ws' ∧
        List.Forall₂ (fun w w' => Keyword.sameLetters w w' = true) ws ws' := by
  simp only [words_iff, exists_and_left, exists_eq_left']
  simp only [Keyword.sameLetters, beq_iff_eq, smallWords, ← List.forall₂_eq_eq_eq,
    List.forall₂_map_left_iff, List.forall₂_map_right_iff]

/-! ## The parts of a name -/

/-- Each word with an underscore in front of it. -/
def underscored (ws : List (List Char)) : List Char := ws.flatMap ('_' :: ·)

theorem toList_handlerName (k : Keyword) (text : String) :
    (handlerName k text).toList = k.lowerName.toList ++ underscored (smallWords text) := by
  rw [handlerName, String.toList_ofList, underscored, smallWords, List.flatMap_map]

theorem split_underscored {front : List Char} (hfront : '_' ∉ front) {ws : List (List Char)}
    (hws : ∀ w ∈ ws, IsSmallWord w) : split '_' (front ++ underscored ws) = front :: ws := by
  induction ws generalizing front with
  | nil => rw [underscored, List.flatMap_nil, List.append_nil, split_of_not_mem hfront]
  | cons w ws ih =>
    obtain ⟨hw, hrest⟩ := List.forall_mem_cons.mp hws
    rw [underscored, List.flatMap_cons, ← underscored, List.cons_append, split_append,
      split_of_not_mem hfront, ih hw.not_mem hrest, List.singleton_append]

/-- Between its underscores a name has the keyword and the words. -/
theorem split_handlerName (k : Keyword) (text : String) :
    split '_' (handlerName k text).toList = k.lowerName.toList :: smallWords text := by
  rw [toList_handlerName]
  exact split_underscored (isSmallWord_lowerName k).not_mem isSmallWord_of_mem

theorem handlerName_inj {k k' : Keyword} {text text' : String} :
    handlerName k text = handlerName k' text' ↔ k = k' ∧ smallWords text = smallWords text' := by
  constructor
  · intro h
    have hparts := split_handlerName k text
    rw [h, split_handlerName, List.cons.injEq, String.toList_inj, Keyword.lowerName_inj] at hparts
    exact ⟨hparts.1.symm, hparts.2.symm⟩
  · rintro ⟨rfl, hwords⟩
    rw [← String.toList_inj, toList_handlerName, toList_handlerName, hwords]

theorem nil_not_mem_split (k : Keyword) (text : String) :
    [] ∉ split '_' (handlerName k text).toList := by
  rw [split_handlerName, List.mem_cons, not_or]
  exact ⟨(isSmallWord_lowerName k).nonempty.symm,
    fun hmem => (isSmallWord_of_mem [] hmem).nonempty rfl⟩

theorem not_doubled_underscore (k : Keyword) (text : String) :
    ¬['_', '_'] <:+: (handlerName k text).toList := by
  rintro ⟨front, back, h⟩
  have hnil := nil_not_mem_split k text
  rw [← h, List.append_assoc, List.cons_append, split_append] at hnil
  exact hnil (List.mem_append_right _ List.mem_cons_self)

theorem not_trailing_underscore (k : Keyword) (text : String) :
    ¬['_'] <:+ (handlerName k text).toList := by
  rintro ⟨front, h⟩
  have hnil := nil_not_mem_split k text
  rw [← h, split_append] at hnil
  exact hnil (List.mem_append_right _ List.mem_cons_self)

/-! ## Names as identifiers -/

theorem IsSmall.beginsIdentifier {c : Char} (h : IsSmall c) :
    Unicode.beginsIdentifier c = true := by
  obtain ⟨hfirst, hlast⟩ := isSmall_iff.mp h
  exact Unicode.Ranges.has_of_covers (by decide +kernel) hfirst hlast

theorem IsSmall.inIdentifier {c : Char} (h : IsSmall c) : Unicode.inIdentifier c = true := by
  rw [Unicode.inIdentifier, h.beginsIdentifier, Bool.true_or]

/-- No reserved word begins with a keyword. -/
theorem handlerName_not_reserved (k : Keyword) (text : String) :
    reservedWords.contains (handlerName k text) = false := by
  have hreserved : ∀ word ∈ reservedWords, ¬k.lowerName.toList <+: word.toList := by
    cases k <;> decide
  refine Bool.eq_false_iff.mpr fun hmem => hreserved _ (List.contains_iff_mem.mp hmem) ?_
  rw [toList_handlerName]
  exact List.prefix_append _ _

theorem inIdentifier_of_mem_underscored {ws : List (List Char)} (hws : ∀ w ∈ ws, IsSmallWord w) :
    ∀ c ∈ underscored ws, Unicode.inIdentifier c = true := by
  intro c hc
  obtain ⟨w, hw, hc⟩ := List.mem_flatMap.mp hc
  rcases List.mem_cons.mp hc with rfl | hc
  · decide +kernel
  · exact ((hws w hw).small c hc).inIdentifier

theorem isIdentifier_handlerName (k : Keyword) (text : String) :
    isIdentifier (handlerName k text) = true := by
  obtain ⟨hne, hsmall⟩ := isSmallWord_lowerName k
  obtain ⟨c, rest, hname⟩ := List.exists_cons_of_ne_nil hne
  rw [hname, List.forall_mem_cons] at hsmall
  have hrest : ∀ d ∈ rest ++ underscored (smallWords text), Unicode.inIdentifier d = true :=
    List.forall_mem_append.mpr ⟨fun d hd => (hsmall.2 d hd).inIdentifier,
      inIdentifier_of_mem_underscored isSmallWord_of_mem⟩
  rw [isIdentifier, toList_handlerName, hname, handlerName_not_reserved]
  dsimp only [List.cons_append]
  rw [hsmall.1.beginsIdentifier, List.all_eq_true.mpr hrest]
  rfl

/-! ## Names of names -/

theorem underscored_runs {ws : List (List Char)} (hws : ∀ w ∈ ws, IsSmallWord w) :
    Runs IsLetter (underscored ws) ws := by
  induction ws with
  | nil => exact .nil
  | cons w ws ih =>
    obtain ⟨hw, hrest⟩ := List.forall_mem_cons.mp hws
    have hback : ∀ c ∈ (underscored ws).head?, ¬IsLetter c := by
      cases ws with
      | nil => exact nofun
      | cons v ws =>
        intro c hc
        obtain rfl : '_' = c := Option.some.inj hc
        exact not_isLetter_underscore
    exact (Runs.take hw.nonempty (fun c hc => (hw.small c hc).isLetter) hback (ih hrest)).skip
      not_isLetter_underscore

/-- What stands in a name behind its keyword, with its first underscore or without, has the words of
the step. -/
theorem smallWords_of_underscored {text part : String}
    (h : underscored (smallWords text) = part.toList ∨
      underscored (smallWords text) = '_' :: part.toList) : smallWords part = smallWords text := by
  have hunderscored : words (underscored (smallWords text)) = smallWords text :=
    words_iff.mp (underscored_runs isSmallWord_of_mem)
  have hwords : words part.toList = smallWords text := by
    rcases h with h | h
    · rwa [h] at hunderscored
    · rw [h] at hunderscored
      exact hunderscored
  have hlower : ∀ w ∈ smallWords text, w.map Char.toLower = w :=
    fun w hw => (isSmallWord_of_mem w hw).toLower
  calc smallWords part = (smallWords text).map (·.map Char.toLower) := by rw [smallWords, hwords]
    _ = (smallWords text).map id := List.map_congr_left hlower
    _ = smallWords text := List.map_id _

end Advice

/-- The name of the handler for a step is its keyword and then the runs of letters in its text, all
in small letters, and each run behind an underscore. So it is an identifier, and no underscore
stands in front of another one or at the end. Two names are the same just if they are made for the
same keyword and for texts whose runs of letters agree up to case. What stands behind the keyword,
with its first underscore or without, gives the same name again. -/
theorem handler_name_remembers_words (k : Keyword) (text : String) :
    let keyword := k.name.toList.map Char.toLower
    let name := Advice.handlerName k text
    (∃ ws groups, Text.Runs Advice.IsLetter text.toList ws ∧
      groups = ws.map (·.map Char.toLower) ∧ name.toList = keyword ++ Advice.underscored groups ∧
      ∀ group ∈ groups, Advice.IsSmallWord group) ∧
    (Advice.isIdentifier name = true ∧ ¬['_', '_'] <:+: name.toList ∧ ¬['_'] <:+ name.toList) ∧
    (∀ k' text', name = Advice.handlerName k' text' ↔
      k = k' ∧ ∃ ws ws', Text.Runs Advice.IsLetter text.toList ws ∧
        Text.Runs Advice.IsLetter text'.toList ws' ∧
        List.Forall₂ (fun w w' => Keyword.sameLetters w w' = true) ws ws') ∧
    ∀ part : String, name.toList = keyword ++ part.toList ∨
      name.toList = keyword ++ '_' :: part.toList → Advice.handlerName k part = name := by
  have hname := Advice.toList_handlerName k text
  rw [k.toList_lowerName] at hname
  refine ⟨⟨_, _, Advice.words_iff.mpr rfl, rfl, hname, Advice.isSmallWord_of_mem⟩,
    ⟨Advice.isIdentifier_handlerName k text, Advice.not_doubled_underscore k text,
      Advice.not_trailing_underscore k text⟩, fun k' text' => ?_, fun part hpart => ?_⟩
  · rw [Advice.handlerName_inj, Advice.smallWords_eq_iff]
  · rw [hname, List.append_cancel_left_eq, List.append_cancel_left_eq] at hpart
    exact Advice.handlerName_inj.mpr ⟨rfl, Advice.smallWords_of_underscored hpart⟩

/-- Digits, underscores and letters that are not of ASCII only stand between words. -/
example : Advice.handlerName .then "2 Élan-VITAL__é_x9" = "then_lan_vital_x" := by decide

end FeatureScript
