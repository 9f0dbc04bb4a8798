import FeatureScript.Proofs.Advice.Provider
import Mathlib.Data.List.Chain

/-!
# FeatureScript.Proofs.Advice.RawLiteral

Reading the pattern in the template of a missing step.

A raw literal ends at the first double quote that has as many hashes behind it as its opening has
(`Advice.readRaw?`). One hash is enough for a pattern with double quotes: a hash has a backslash in
front of it in an escaped text (`escapePattern_isChain`), so none stands behind a double quote.
`raw_literal_reads_back`: the literal ends where it should and holds the pattern as it is.
-/

namespace FeatureScript

/-- In an escaped text, and up to what stands behind it, every hash has a backslash in front. -/
theorem escapePattern_isChain (first : Char) (cs rest : List Char)
    (hhead : ∀ c ∈ rest.head?, c ≠ '#') (hrest : rest.IsChain fun a b => b = '#' → a = '\\') :
    (first :: (escapePattern cs ++ rest)).IsChain fun a b => b = '#' → a = '\\' := by
  induction cs generalizing first with
  | nil =>
    cases rest with
    | nil => exact .singleton _
    | cons c rest => exact .cons_cons (fun h => absurd h (hhead c rfl)) hrest
  | cons c cs ih =>
    have hslash : isPatternMeta '#' = true := rfl
    rw [escapePattern, List.flatMap_cons, ← escapePattern, List.append_assoc]
    cases hmeta : isPatternMeta c with
    | true => exact .cons_cons (fun h => by cases h) (.cons_cons (fun _ => rfl) (ih c))
    | false => exact .cons_cons (fun h => by rw [h, hslash] at hmeta; cases hmeta) (ih c)

theorem mem_escapePattern {c : Char} (h : isPatternMeta c = false) (cs : List Char) :
    c ∈ escapePattern cs ↔ c ∈ cs := by
  have hne : c ≠ '\\' := by rintro rfl; cases h
  rw [escapePattern, List.mem_flatMap]
  constructor
  · rintro ⟨d, hd, hc⟩
    split at hc
    · rcases List.mem_cons.mp hc with rfl | hc
      · exact absurd rfl hne
      · rwa [List.mem_singleton.mp hc]
    · rwa [List.mem_singleton.mp hc]
  · intro hc
    exact ⟨c, hc, by rw [h]; exact List.mem_singleton_self c⟩

/-- The pattern of a text has the characters of the text that mean nothing in a pattern. -/
theorem mem_literalPattern {c : Char} (h : isPatternMeta c = false) (text : String) :
    c ∈ (literalPattern text).toList ↔ c ∈ Text.trim text.toList := by
  have hcaret : c ≠ '^' := by rintro rfl; cases h
  have hdollar : c ≠ '$' := by rintro rfl; cases h
  rw [literalPattern, String.toList_ofList, List.mem_cons, List.mem_append, mem_escapePattern h,
    List.mem_singleton]
  simp [hcaret, hdollar]

namespace Advice

/-! ## Raw literals -/

def rawOpening (hashes : Nat) : List Char := 'r' :: (List.replicate hashes '#' ++ ['"'])

def rawClosing (hashes : Nat) : List Char := '"' :: List.replicate hashes '#'

/-- What stands in front of the first place where `closing` stands, and what stands behind it. -/
def cutAt (closing : List Char) : List Char → Option (List Char × List Char)
  | [] => none
  | c :: rest =>
    if closing <+: c :: rest then some ([], (c :: rest).drop closing.length)
    else (cutAt closing rest).map fun (content, after) => (c :: content, after)

/-- What is in the raw literal that a text begins with, and what stands behind the literal. -/
def readRaw? : List Char → Option (List Char × List Char)
  | 'r' :: rest =>
    match rest.dropWhile (· = '#') with
    | '"' :: body => cutAt (rawClosing (rest.takeWhile (· = '#')).length) body
    | _ => none
  | _ => none

/-- The value of a text that is a raw literal. Carriage returns do not stand in one. -/
def rawValue? (text : String) : Option String :=
  match readRaw? (unixNewlines text.toList) with
  | some (content, []) => if '\r' ∈ content then none else some (String.ofList content)
  | _ => none

/-- Behind the content, the closing stands for the first time. -/
def ClosesFirst (closing content : List Char) : Prop :=
  ∀ front back, content ++ closing = front ++ (closing ++ back) → back = []

theorem ClosesFirst.tail {closing content : List Char} {c : Char}
    (h : ClosesFirst closing (c :: content)) : ClosesFirst closing content := fun front back heq =>
  h (c :: front) back (by rw [List.cons_append, List.cons_append, heq])

theorem cutAt_append {closing content : List Char} (hclosing : closing ≠ [])
    (h : ClosesFirst closing content) (after : List Char) :
    cutAt closing (content ++ (closing ++ after)) = some (content, after) := by
  induction content with
  | nil =>
    obtain ⟨c, rest, rfl⟩ := List.exists_cons_of_ne_nil hclosing
    have hprefix : c :: rest <+: c :: (rest ++ after) := List.prefix_append (c :: rest) after
    have hdrop : (c :: (rest ++ after)).drop (c :: rest).length = after := List.drop_left
    rw [List.nil_append, List.cons_append, cutAt, if_pos hprefix, hdrop]
  | cons c content ih =>
    rw [List.cons_append, cutAt, if_neg, ih h.tail]
    · rfl
    · -- it would stand within the content and the closing, and not at their end
      intro hprefix
      have hwithin : closing <+: c :: content ++ closing := by
        refine List.prefix_of_prefix_length_le hprefix ⟨after, by simp⟩ ?_
        rw [List.length_append]
        exact Nat.le_add_left _ _
      obtain ⟨back, hback⟩ := hwithin
      have hlength := congrArg List.length hback
      rw [h [] back hback.symm, List.append_nil, List.length_append, List.length_cons] at hlength
      omega

theorem readRaw?_append {hashes : Nat} {content : List Char}
    (h : ClosesFirst (rawClosing hashes) content) (after : List Char) :
    readRaw? (rawOpening hashes ++ (content ++ (rawClosing hashes ++ after))) =
      some (content, after) := by
  have htake : ∀ rest : List Char, (List.replicate hashes '#' ++ '"' :: rest).takeWhile (· = '#') =
      List.replicate hashes '#' := by
    intro rest
    rw [List.takeWhile_append_of_pos (by simp)]
    simp
  have hdrop : ∀ rest : List Char, (List.replicate hashes '#' ++ '"' :: rest).dropWhile (· = '#') =
      '"' :: rest := by
    intro rest
    rw [List.dropWhile_append_of_pos (by simp)]
    simp
  have hopening : rawOpening hashes ++ (content ++ (rawClosing hashes ++ after)) =
      'r' :: (List.replicate hashes '#' ++ '"' :: (content ++ (rawClosing hashes ++ after))) := by
    simp [rawOpening]
  rw [hopening, readRaw?, htake, hdrop, List.length_replicate]
  exact cutAt_append (List.cons_ne_nil _ _) h after

/-! ## The literal of a pattern -/

/-- How many hashes the literal of a text has at each end. -/
def rawHashes (text : String) : Nat := if text.toList.contains '"' then 1 else 0

theorem rawHashes_le_one (text : String) : rawHashes text ≤ 1 := by
  unfold rawHashes
  split <;> decide

theorem toList_rawLiteral (text : String) : (rawLiteral text).toList =
    rawOpening (rawHashes text) ++ (text.toList ++ rawClosing (rawHashes text)) := by
  unfold rawLiteral rawHashes
  split <;> simp [rawOpening, rawClosing]

theorem closesFirst_of_not_mem {content : List Char} (h : '"' ∉ content) :
    ClosesFirst (rawClosing 0) content := by
  intro front back heq
  rcases List.eq_nil_or_concat back with rfl | ⟨back, last, rfl⟩
  · rfl
  · have hcontent : content = front ++ '"' :: back :=
      List.init_eq_of_concat_eq (by simpa [rawClosing] using heq)
    rw [hcontent] at h
    simp at h

/-- No double quote has a hash behind it, so the first one that has is the last one. -/
theorem closesFirst_of_isChain {content : List Char}
    (h : (content ++ ['"']).IsChain fun a b => b = '#' → a = '\\') :
    ClosesFirst (rawClosing 1) content := by
  intro front back heq
  rcases List.eq_nil_or_concat back with rfl | ⟨back, last, rfl⟩
  · rfl
  · have hcontent : content ++ ['"'] = front ++ '"' :: '#' :: back :=
      List.init_eq_of_concat_eq (by simpa [rawClosing] using heq)
    rw [hcontent] at h
    have hhash := (List.isChain_cons_cons.mp h.right_of_append).1 rfl
    cases hhash

theorem closesFirst_literalPattern (text : String) :
    ClosesFirst (rawClosing (rawHashes (literalPattern text))) (literalPattern text).toList := by
  unfold rawHashes
  split
  next =>
    refine closesFirst_of_isChain ?_
    have hchain := escapePattern_isChain '^' (Text.trim text.toList) ['$', '"'] (by simp)
      (by simp)
    simpa [literalPattern] using hchain
  next hquote => exact closesFirst_of_not_mem fun hmem => hquote (List.contains_iff_mem.mpr hmem)

theorem readRaw?_literalPattern (text : String) (after : List Char) :
    readRaw? ((rawLiteral (literalPattern text)).toList ++ after) =
      some ((literalPattern text).toList, after) := by
  rw [toList_rawLiteral, List.append_assoc, List.append_assoc]
  exact readRaw?_append (closesFirst_literalPattern text) after

/-- A raw literal is never read as a text with a carriage return. -/
theorem rawValue?_not_mem {text value : String} (h : rawValue? text = some value) :
    '\r' ∉ value.toList := by
  unfold rawValue? at h
  split at h
  next =>
    split at h
    next => cases h
    next hmem => cases h; rwa [String.toList_ofList]
  next => cases h

theorem rawValue?_literalPattern (text : String) :
    rawValue? (rawLiteral (literalPattern text)) = some (literalPattern text) ↔
      '\r' ∉ Text.trim text.toList := by
  rw [← mem_literalPattern (c := '\r') rfl]
  constructor
  · exact rawValue?_not_mem
  · intro hreturn
    have hliteral : '\r' ∉ (rawLiteral (literalPattern text)).toList := by
      rw [toList_rawLiteral]
      simp [rawOpening, rawClosing, hreturn]
    have hread := readRaw?_literalPattern text []
    rw [List.append_nil] at hread
    rw [rawValue?, unixNewlines_of_not_mem hliteral, hread]
    simp [hreturn]

/-! ## The template -/

/-- The call that registers a definition whose pattern is given as a literal. -/
def registerCall (k : Keyword) (literal handler : String) : String :=
  "  steps." ++ k.lowerName ++ "(" ++ literal ++ ", " ++ handler ++ ")?;"

theorem missingStep_message (lineNumber : Nat) (k : Keyword) (text : String) :
    ∃ introduction rest, (missingStep lineNumber k text).message = introduction ++
      registerCall k (rawLiteral (literalPattern text)) (handlerName k text) ++ rest := by
  have hsplit : ∀ (before : List String) (line : String) (after : List String),
      textOfLines (before ++ line :: after) =
        textOfLines before ++ line ++ ("\n" ++ textOfLines after) := by
    intro before line after
    rw [Text.textOfLines_append, Text.textOfLines_cons, String.append_assoc, String.append_assoc]
  exact ⟨_, _, hsplit ["You have an unrecognised step in line " ++ toString lineNumber ++
    ". You can use the following template:", ""] (registerCall k _ _) _⟩

end Advice

/-- The pattern of a missing step, as it is printed for the step. Its literal has a hash at both
ends or none; the closing stands behind the pattern for the first time, so that the literal is read
up to its end and no further, and holds the pattern as it is. The value of the literal is the
pattern too, unless there is a carriage return in it, which does not stand in raw literals. -/
theorem raw_literal_reads_back (lineNumber : Nat) (k : Keyword) (text : String) :
    let pattern := literalPattern text
    let literal := Advice.rawLiteral pattern
    (∃ introduction rest, (Advice.missingStep lineNumber k text).message =
      introduction ++ Advice.registerCall k literal (Advice.handlerName k text) ++ rest) ∧
    (∃ hashes ≤ 1,
      literal.toList =
        Advice.rawOpening hashes ++ (pattern.toList ++ Advice.rawClosing hashes) ∧
      ∀ front back, pattern.toList ++ Advice.rawClosing hashes =
        front ++ (Advice.rawClosing hashes ++ back) → back = []) ∧
    (∀ after, Advice.readRaw? (literal.toList ++ after) = some (pattern.toList, after)) ∧
    (Advice.rawValue? literal = some pattern ↔ '\r' ∉ Text.trim text.toList) :=
  ⟨Advice.missingStep_message lineNumber k text,
    ⟨_, Advice.rawHashes_le_one _, Advice.toList_rawLiteral _,
      Advice.closesFirst_literalPattern text⟩,
    Advice.readRaw?_literalPattern text, Advice.rawValue?_literalPattern text⟩

/-- A double quote with a hash behind it does not end the literal, since the hash is escaped. -/
example : Advice.rawLiteral (literalPattern "say \"#\"") = "r#\"^say \"\\#\"$\"#" := by decide +kernel

end FeatureScript
