import FeatureScript.Proofs.Report.Broken
import Mathlib.Data.List.Forall2

/-!
# FeatureScript.Proofs.Report.Colour

What colours add to a transcript: their codes and nothing else.

`eraseCodes` deletes codes from a list, from left to right. It goes through a text without the
character that opens codes (`eraseCodes_append`), and it deletes a code at once
(`eraseCodes_code`), since no code is the beginning of another. So `Uncoloured s t`, which says that
`s` without codes is `t` whatever follows, is kept by painting on the one side only
(`Uncoloured.paint`), and holds of the pieces of all events (`uncoloured_pieces`).
`colour_only_adds_codes`: without its codes, the coloured transcript is the plain one.
-/

namespace FeatureScript

/-! ## What a report is given -/

/-- The strings in a value, whether a transcript shows them or not. -/
def FailureDetail.texts : FailureDetail → List String
  | .assertions messages => messages
  | .error message => [message]

@[inherit_doc FailureDetail.texts]
def StepResult.texts : StepResult → List String
  | .pass output | .noAssertions output => [output]
  | .fail output detail => output :: detail.texts
  | .missing _ => []

@[inherit_doc FailureDetail.texts]
def Event.texts : Event → List String
  | .feature line label | .scenario line label => [line.text, line.source, label]
  | .text line => [line.text, line.source]
  | .step line result => line.text :: line.source :: result.texts
  | .advice source message => [source, message]

@[inherit_doc FailureDetail.texts]
def Console.Notice.texts : Notice → List String
  | .event e => e.texts
  | .summary _ => []

/-! ## Codes in a list -/

section Codes

variable {α : Type} [BEq α]

/-- The list without the codes in it. They are deleted from left to right. -/
def eraseCodes (codes : List (List α)) : List α → List α
  | [] => []
  | x :: rest =>
    match codes.find? (·.isPrefixOf (x :: rest)) with
    | some code => eraseCodes codes (rest.drop (code.length - 1))
    | none => x :: eraseCodes codes rest
termination_by text => text.length
decreasing_by all_goals simp only [List.length_cons, List.length_drop]; omega

@[simp] theorem eraseCodes_nil (codes : List (List α)) : eraseCodes codes [] = [] := by
  rw [eraseCodes]

/-- All codes begin with `opener`, and none is the beginning of another. -/
structure Separable (opener : α) (codes : List (List α)) : Prop where
  opens : ∀ code ∈ codes, code.head? = some opener
  eq_of_prefix : ∀ code ∈ codes, ∀ other ∈ codes, code <+: other → code = other

variable [LawfulBEq α] {opener : α} {codes : List (List α)}

theorem Separable.eraseCodes_append (h : Separable opener codes) {text : List α}
    (htext : opener ∉ text) (rest : List α) :
    eraseCodes codes (text ++ rest) = text ++ eraseCodes codes rest := by
  induction text with
  | nil => rfl
  | cons x text ih =>
    rw [List.mem_cons, not_or] at htext
    have hnone : codes.find? (·.isPrefixOf (x :: (text ++ rest))) = none := by
      rw [List.find?_eq_none]
      intro code hcode hprefix
      obtain ⟨tail, htail⟩ := List.isPrefixOf_iff_prefix.mp hprefix
      obtain ⟨code, rfl⟩ := List.head?_eq_some_iff.mp (h.opens code hcode)
      exact htext.1 (List.cons.inj htail).1
    rw [List.cons_append, eraseCodes, hnone, List.cons_append, ← ih htext.2]

theorem Separable.eraseCodes_code (h : Separable opener codes) {code : List α}
    (hcode : code ∈ codes) (rest : List α) :
    eraseCodes codes (code ++ rest) = eraseCodes codes rest := by
  have hfind : codes.find? (·.isPrefixOf (code ++ rest)) = some code := by
    cases hfind : codes.find? (·.isPrefixOf (code ++ rest)) with
    | none =>
      have hnot := List.find?_eq_none.mp hfind code hcode
      exact absurd (List.isPrefixOf_iff_prefix.mpr (List.prefix_append code rest)) hnot
    | some other =>
      -- both begin the same list, so one of them begins the other
      have hother : other ∈ codes := List.mem_of_find?_eq_some hfind
      have hprefix : other <+: code ++ rest := by simpa using List.find?_some hfind
      rcases List.prefix_or_prefix_of_prefix hprefix (List.prefix_append code rest) with hle | hle
      · rw [h.eq_of_prefix other hother code hcode hle]
      · rw [h.eq_of_prefix code hcode other hother hle]
  obtain ⟨code, rfl⟩ := List.head?_eq_some_iff.mp (h.opens code hcode)
  rw [List.cons_append] at hfind ⊢
  rw [eraseCodes, hfind]
  simp

end Codes

namespace Console

open Writer

/-! ## The codes of a transcript -/

/-- The character that opens all codes. -/
def escape : Char := '\x1b'

/-- All codes that a transcript may have. -/
def codes : List String :=
  [Colour.red, .green, .yellow, .blue, .purple, .grey].map Colour.code ++ [reset, boldOn, boldOff]

/-- The bytes of a transcript without the codes in them. -/
def withoutCodes (bytes : List UInt8) : List UInt8 := eraseCodes (codes.map bytesOf) bytes

theorem separable_codes : Separable 0x1b (codes.map bytesOf) := ⟨by decide, by decide⟩

theorem Colour.code_mem_codes (c : Colour) : c.code ∈ codes := by cases c <;> decide

/-- The text opens no code. -/
def Plain (text : String) : Prop := escape ∉ text.toList

instance (text : String) : Decidable (Plain text) := inferInstanceAs (Decidable (¬_))

/-- The byte of `escape` stands for that character only. -/
theorem eq_escape_of_mem {c : Char} (h : 0x1b ∈ String.utf8EncodeChar c) : c = escape := by
  have hbyte : ∀ n, 0x1b = UInt8.ofNat n → n % 256 = 27 := by
    intro n hn
    simpa using (congrArg UInt8.toNat hn).symm
  rw [String.utf8EncodeChar] at h
  split at h
  · have hn := hbyte _ (List.mem_singleton.mp h)
    exact Char.toNat_inj.mp (show c.val.toNat = 27 by omega)
  · -- the bytes of all other characters are above 127
    split at h
    · simp only [List.mem_cons, List.not_mem_nil, or_false] at h
      rcases h with h | h <;> have hn := hbyte _ h <;> omega
    · split at h
      · simp only [List.mem_cons, List.not_mem_nil, or_false] at h
        rcases h with h | h | h <;> have hn := hbyte _ h <;> omega
      · simp only [List.mem_cons, List.not_mem_nil, or_false] at h
        rcases h with h | h | h | h <;> have hn := hbyte _ h <;> omega

theorem Plain.not_mem_bytesOf {text : String} (h : Plain text) : 0x1b ∉ bytesOf text := by
  have hbytes : bytesOf text = text.toList.flatMap String.utf8EncodeChar := by
    conv => lhs; rw [← String.ofList_toList (s := text)]
    simp only [bytesOf, String.toUTF8_eq_toByteArray, String.toByteArray_ofList, List.utf8Encode,
      List.data_toByteArray, List.toList_toArray]
  rw [hbytes]
  intro hmem
  obtain ⟨c, hc, hbyte⟩ := List.mem_flatMap.mp hmem
  exact h (eq_escape_of_mem hbyte ▸ hc)

@[simp] theorem plain_append {s t : String} : Plain (s ++ t) ↔ Plain s ∧ Plain t := by
  simp [Plain, not_or]

theorem plain_of_digits {text : String} (h : ∀ c ∈ text.toList, c.isDigit) : Plain text :=
  fun hmem => absurd (h escape hmem) (by decide)

@[simp] theorem plain_toString (n : Nat) : Plain (toString n) := by
  refine plain_of_digits fun c hc => ?_
  rw [Nat.toString_eq_ofList_toDigits, String.toList_ofList] at hc
  exact Nat.isDigit_of_mem_toDigits (by decide) (by decide) hc

theorem plain_pad {text : String} (h : Plain text) : Plain (pad text) := by
  refine plain_append.mpr ⟨h, fun hmem => ?_⟩
  rw [String.toList_ofList] at hmem
  exact absurd (List.eq_of_mem_replicate hmem) (by decide)

theorem plain_intercalate {separator : String} {texts : List String} (hseparator : Plain separator)
    (h : ∀ text ∈ texts, Plain text) : Plain (separator.intercalate texts) := by
  induction texts with
  | nil => simp [Plain]
  | cons text rest ih =>
    obtain ⟨htext, hrest⟩ := List.forall_mem_cons.mp h
    cases rest with
    | nil => simpa using htext
    | cons next rest =>
      rw [String.intercalate_cons_of_ne_nil (List.cons_ne_nil next rest)]
      exact plain_append.mpr ⟨plain_append.mpr ⟨htext, hseparator⟩, ih hrest⟩

theorem plain_renderFailure {output : String} {detail : FailureDetail} (houtput : Plain output)
    (hdetail : ∀ text ∈ detail.texts, Plain text) : Plain (renderFailure output detail) := by
  have hmessage : Plain detail.message := by
    cases detail with
    | assertions messages => exact plain_intercalate (by decide) hdetail
    | error message => exact hdetail message (List.mem_singleton_self message)
  rw [renderFailure]
  split
  · exact hmessage
  · exact plain_append.mpr ⟨plain_append.mpr ⟨houtput, by decide⟩, hmessage⟩

theorem plain_message (t : Tally) : Plain t.message := by
  simp only [Tally.message, plain_append, plain_toString, true_and]
  decide

/-! ## Texts with and without codes -/

/-- Without its codes the first text is the second, whatever follows it. -/
structure Uncoloured (s t : String) : Prop where
  plain : Plain t
  without : ∀ rest, withoutCodes (bytesOf s ++ rest) = bytesOf t ++ withoutCodes rest

namespace Uncoloured

variable {s t u v : String}

theorem of_plain (h : Plain t) : Uncoloured t t :=
  ⟨h, separable_codes.eraseCodes_append h.not_mem_bytesOf⟩

theorem of_code (h : s ∈ codes) : Uncoloured s "" :=
  ⟨by decide, separable_codes.eraseCodes_code (List.mem_map_of_mem h)⟩

theorem append (hs : Uncoloured s t) (hu : Uncoloured u v) : Uncoloured (s ++ u) (t ++ v) where
  plain := plain_append.mpr ⟨hs.plain, hu.plain⟩
  without rest := by
    rw [bytesOf_append, List.append_assoc, hs.without, hu.without, bytesOf_append,
      List.append_assoc]

variable (advise : Bool)

theorem paint (h : Uncoloured s t) (c : Colour) :
    Uncoloured (paint { colour := true, advise } c s) (paint { colour := false, advise } c t) := by
  have hpainted := ((of_code c.code_mem_codes).append h).append (of_code (s := reset) (by decide))
  rwa [String.empty_append, String.append_empty] at hpainted

theorem bold (h : Uncoloured s t) :
    Uncoloured (bold { colour := true, advise } s) (bold { colour := false, advise } t) := by
  have hbold := ((of_code (s := boldOn) (by decide)).append h).append
    (of_code (s := boldOff) (by decide))
  rwa [String.empty_append, String.append_empty] at hbold

theorem join {pieces pieces' : List String} (h : List.Forall₂ Uncoloured pieces pieces') :
    Uncoloured (String.join pieces) (String.join pieces') := by
  induction h with
  | nil => exact of_plain (by decide)
  | cons hpiece _ ih =>
    rw [String.join_cons, String.join_cons]
    exact hpiece.append ih

end Uncoloured

/-! ## Pieces -/

section

variable (advise : Bool)

theorem uncoloured_located {line : Line} (htext : Plain line.text) (hsource : Plain line.source)
    (c : Option Colour) : List.Forall₂ Uncoloured
      (located { colour := true, advise } line c) (located { colour := false, advise } line c) := by
  have hpadded : Uncoloured (pad line.text) (pad line.text) := .of_plain (plain_pad htext)
  have hplace : Plain (" # " ++ line.source ++ " : " ++ toString line.number) := by
    simp only [plain_append, hsource, plain_toString, and_true]
    decide
  have htail := List.Forall₂.cons (Uncoloured.paint advise (.of_plain hplace) .grey)
    (.cons (Uncoloured.of_plain (t := "\n") (by decide)) .nil)
  cases c with
  | some c => exact .cons (hpadded.paint advise c) htail
  | none => exact .cons (hpadded.bold advise) htail

theorem uncoloured_line {text : String} (h : Plain text) :
    List.Forall₂ Uncoloured [text, "\n"] [text, "\n"] :=
  .cons (.of_plain h) (.cons (.of_plain (by decide)) .nil)

theorem uncoloured_trailing {output : String} (h : Plain output) :
    List.Forall₂ Uncoloured (trailing output) (trailing output) := by
  rw [trailing]
  split
  · exact .nil
  · exact uncoloured_line h

theorem uncoloured_step {line : Line} {result : StepResult} (htext : Plain line.text)
    (hsource : Plain line.source) (h : ∀ text ∈ result.texts, Plain text) :
    List.Forall₂ Uncoloured (pieces { colour := true, advise } (.step line result))
      (pieces { colour := false, advise } (.step line result)) := by
  have hline := fun c => uncoloured_located advise htext hsource (some c)
  cases result with
  | pass output =>
    exact List.rel_append (hline .green) (uncoloured_trailing (List.forall_mem_singleton.mp h))
  | fail output detail =>
    obtain ⟨houtput, hdetail⟩ := List.forall_mem_cons.mp h
    exact List.rel_append (hline .red) (uncoloured_line (plain_renderFailure houtput hdetail))
  | missing keyword => exact hline .blue
  | noAssertions output =>
    exact List.rel_append (hline .yellow) (uncoloured_trailing (List.forall_mem_singleton.mp h))

theorem uncoloured_pieces {e : Event} (h : ∀ text ∈ e.texts, Plain text) :
    List.Forall₂ Uncoloured (pieces { colour := true, advise } e)
      (pieces { colour := false, advise } e) := by
  cases e with
  | feature line label | scenario line label =>
    exact uncoloured_located advise (h line.text (by simp [Event.texts]))
      (h line.source (by simp [Event.texts])) none
  | text line =>
    have htext : Uncoloured line.text line.text := .of_plain (h line.text List.mem_cons_self)
    exact .cons (htext.bold advise) (.cons (.of_plain (by decide)) .nil)
  | step line result =>
    obtain ⟨htext, hrest⟩ := List.forall_mem_cons.mp h
    obtain ⟨hsource, hresult⟩ := List.forall_mem_cons.mp hrest
    exact uncoloured_step advise htext hsource hresult
  | advice source message =>
    have hheading : Uncoloured "[Advise]\n" "[Advise]\n" := .of_plain (by decide)
    have hmessage : Uncoloured message message := .of_plain (h message (by simp [Event.texts]))
    cases advise with
    | true =>
      exact .cons (((hheading.bold true).append hmessage).paint true .purple)
        (.cons (.of_plain (by decide)) .nil)
    | false => exact .nil

theorem uncoloured_summary (t : Tally) :
    List.Forall₂ Uncoloured (summaryPieces { colour := true, advise } t)
      (summaryPieces { colour := false, advise } t) := by
  have hmessage : Uncoloured t.message t.message := .of_plain (plain_message t)
  exact .cons (.of_plain (by decide)) (.cons (hmessage.paint advise _)
    (.cons (.of_plain (by decide)) .nil))

theorem uncoloured_notice {notice : Notice} (h : ∀ text ∈ notice.texts, Plain text) :
    List.Forall₂ Uncoloured (notice.pieces { colour := true, advise })
      (notice.pieces { colour := false, advise }) := by
  cases notice with
  | event e => exact uncoloured_pieces advise h
  | summary t => exact uncoloured_summary advise t

theorem uncoloured_textOf {notices : List Notice}
    (h : ∀ notice ∈ notices, ∀ text ∈ notice.texts, Plain text) :
    Uncoloured (textOf { colour := true, advise } notices)
      (textOf { colour := false, advise } notices) := by
  have hpieces : List.Forall₂ Uncoloured
      (notices.flatMap (Notice.pieces { colour := true, advise }))
      (notices.flatMap (Notice.pieces { colour := false, advise })) := by
    induction notices with
    | nil => exact .nil
    | cons notice rest ih =>
      obtain ⟨hnotice, hrest⟩ := List.forall_mem_cons.mp h
      exact List.rel_append (uncoloured_notice advise hnotice) (ih hrest)
  exact .join hpieces

end

end Console

/-- A console is told of events and of tallies whose texts have no escape character, once with
colours and once without. The coloured transcript without its codes is, byte for byte, the plain
transcript, in which nothing opens a code. The same holds of what is written, by any writers that do
not fail. -/
theorem colour_only_adds_codes (advise : Bool) (notices : List Console.Notice)
    (h : ∀ notice ∈ notices, ∀ text ∈ notice.texts, Console.escape ∉ text.toList) :
    let coloured : Console.Style := { colour := true, advise }
    let plain : Console.Style := { colour := false, advise }
    Console.withoutCodes (Console.bytesOf (Console.textOf coloured notices)) =
      Console.bytesOf (Console.textOf plain notices) ∧
    Console.escape ∉ (Console.textOf plain notices).toList ∧
    ∀ (ω υ : Type) (W : Writer ω) (V : Writer υ) (start : ω) (other : υ),
      let written := Console.writeUp W start coloured notices
      let written' := Console.writeUp V other plain notices
      (∀ c ∈ written.2.calls, c.error? = none) → (∀ c ∈ written'.2.calls, c.error? = none) →
      Console.withoutCodes written.2.taken = written'.2.taken := by
  intro coloured plain
  have huncoloured := Console.uncoloured_textOf advise h
  have htext : Console.withoutCodes (Console.bytesOf (Console.textOf coloured notices)) =
      Console.bytesOf (Console.textOf plain notices) := by
    have hrest := huncoloured.without []
    rwa [List.append_nil, Console.withoutCodes, Console.withoutCodes, eraseCodes_nil,
      List.append_nil] at hrest
  refine ⟨htext, huncoloured.plain, ?_⟩
  intro ω υ W V start other written written' hwritten hwritten'
  have hcoloured : written.2.taken = Console.bytesOf (Console.textOf coloured notices) :=
    ((Console.fedAs_told W start coloured notices).taken_eq hwritten).1
  have hplain : written'.2.taken = Console.bytesOf (Console.textOf plain notices) :=
    ((Console.fedAs_told V other plain notices).taken_eq hwritten').1
  rw [hcoloured, hplain, htext]

/-- The heading of advice is bold inside the colour of advice. -/
theorem colour_only_adds_codes_advice :
    let notices : List Console.Notice :=
      [.event (.advice "demo" "add"), .event (.text ⟨"b", 1, "demo"⟩)]
    let coloured := "\x1b[0;35m\x1b[1m[Advise]\n\x1b[22madd\x1b[00m\n\x1b[1mb\x1b[22m\n"
    (∀ notice ∈ notices, ∀ text ∈ notice.texts, Console.escape ∉ text.toList) ∧
      Console.textOf { colour := true, advise := true } notices = coloured ∧
      Console.withoutCodes (Console.bytesOf coloured) = Console.bytesOf "[Advise]\nadd\nb\n" := by
  intro notices coloured
  have hplain : ∀ notice ∈ notices, ∀ text ∈ notice.texts, Console.escape ∉ text.toList := by decide
  have hcoloured : Console.textOf { colour := true, advise := true } notices = coloured := by rfl
  have herased := (colour_only_adds_codes true notices hplain).1
  rw [hcoloured] at herased
  exact ⟨hplain, hcoloured, herased⟩

end FeatureScript
