import FeatureScript.Pattern.Escape
import FeatureScript.Proofs.Run.DryRun
import FeatureScript.Proofs.Run.Failure
import FeatureScript.Proofs.Text.Lines
import FeatureScript.Proofs.Text.Split
import FeatureScript.Proofs.Unicode.Identifier

/-!
# FeatureScript.Proofs.Advice.Provider

What comes of the template that is printed for a feature file without a provider.

The name of the type is an identifier if and only if the helper is made of characters that stand in
identifiers, and begins with one that can begin them (`isIdentifier_helperTypeName`). The helper in
double quotes is a literal for itself if and only if it has no double quote, no backslash and no
carriage return (`literalValue?_quoted`): a literal is never shorter than what it stands for, and
each escape is longer (`readLiteral_length`). `provider_template_exact` says this of the template,
and that what is registered by it is found if the literal has the helper for its value.
-/

namespace FeatureScript

open Unicode

/-! ## Names of types -/

/-- A word with a capital begins with the capital of its first character, and has characters that
stand in no identifier only if the word has. -/
theorem capitalized_cons (c : Char) (cs : List Char) :
    ∃ d rest, capitalized (c :: cs) = d :: rest ∧
      nameKind d.toNat = (nameKind c.toNat).capital ∧
      ((∀ e ∈ rest, inIdentifier e = true) ↔ ∀ e ∈ cs, inIdentifier e = true) := by
  obtain ⟨image, ⟨a, as, rfl, ha, has⟩, heq⟩ := lowercaseAfter_cons [] c cs
  obtain ⟨d, ds, hupper, hd, hds⟩ := upper_renders a
  refine ⟨d, ds ++ (as ++ lowercaseAfter [c] cs), ?_, hd.trans (congrArg _ ha), ?_⟩
  · rw [capitalized, lowercase, String.toList_ofList, String.toList_ofList, heq]
    simp [hupper]
  · rw [List.forall_mem_append, List.forall_mem_append, all_inIdentifier_lowercaseAfter]
    exact (and_iff_right hds).trans (and_iff_right has)

theorem capitalized_words (words : List (List Char)) :
    ((∀ e ∈ words.flatMap capitalized, inIdentifier e = true) ↔
        ∀ c ∈ words.flatten, inIdentifier c = true) ∧
      (words.flatMap capitalized).head?.map (fun d => nameKind d.toNat) =
        words.flatten.head?.map fun c => (nameKind c.toNat).capital := by
  induction words with
  | nil => exact ⟨.rfl, rfl⟩
  | cons word rest ih =>
    obtain ⟨hall, hhead⟩ := ih
    rw [List.flatMap_cons, List.flatten_cons, List.forall_mem_append, List.forall_mem_append, hall]
    cases word with
    | nil => exact ⟨and_congr_left' (iff_of_true nofun nofun), hhead⟩
    | cons c cs =>
      obtain ⟨d, ds, heq, hd, hds⟩ := capitalized_cons c cs
      rw [heq, List.forall_mem_cons, List.forall_mem_cons, hds, inIdentifier_iff, inIdentifier_iff,
        hd, NameKind.capital_ne_none_iff]
      exact ⟨.rfl, congrArg some hd⟩

/-- Underscores stand in identifiers, so it makes no difference whether they are there. -/
theorem all_inIdentifier_filter (cs : List Char) :
    (∀ c ∈ cs.filter (fun c => decide (c ≠ '_')), inIdentifier c = true) ↔
      ∀ c ∈ cs, inIdentifier c = true := by
  have hunderscore : inIdentifier '_' = true := by decide +kernel
  simp only [List.mem_filter, decide_eq_true_eq]
  constructor
  · intro h c hc
    by_cases hc' : c = '_'
    · exact hc' ▸ hunderscore
    · exact h c ⟨hc, hc'⟩
  · intro h c hc
    exact h c hc.1

theorem capital_leads_iff {c : Char} (h : c ≠ '_') :
    (nameKind c.toNat).capital.Leads ↔ beginsIdentifier c = true ∨ c = '\u0345' := by
  rw [NameKind.Leads, NameKind.capital_eq_start_iff, NameKind.capital_eq_underscore_iff,
    beginsIdentifier_iff, nameKind_eq_iota_iff, nameKind_eq_underscore_iff]
  exact or_iff_left h

namespace Advice

open Pattern.Reader (hexValue? charOf?)

/-- Words that are spelled like identifiers and are none. -/
def reservedWords : List String :=
  ["abstract", "as", "async", "await", "become", "box", "break", "const", "continue", "crate", "do",
    "dyn", "else", "enum", "extern", "false", "final", "fn", "for", "gen", "if", "impl", "in",
    "let", "loop", "macro", "match", "mod", "move", "mut", "override", "priv", "pub", "ref",
    "return", "self", "Self", "static", "struct", "super", "trait", "true", "try", "type", "typeof",
    "unsafe", "unsized", "use", "virtual", "where", "while", "yield"]

/-- A name that can be given to a type or to a function. -/
def isIdentifier (name : String) : Bool :=
  match name.toList with
  | [] => false
  | c :: rest => (beginsIdentifier c || c == '_' && !rest.isEmpty) && rest.all inIdentifier &&
    !reservedWords.contains name

/-- The helper is made of characters that stand in identifiers. The first one behind underscores
begins identifiers, or is the subscript iota, whose capital does. -/
structure FitsIdentifier (helper : String) : Prop where
  characters : ∀ c ∈ helper.toList, inIdentifier c = true
  first : ∀ c, helper.toList.find? (fun c => decide (c ≠ '_')) = some c →
    beginsIdentifier c = true ∨ c = '\u0345'

theorem not_reserved {name : String} (h : "Helper".toList <:+ name.toList) :
    reservedWords.contains name = false := by
  have hreserved : ∀ word ∈ reservedWords, ¬"Helper".toList <:+ word.toList := by decide
  exact (Bool.eq_false_iff).mpr fun hmem => hreserved name (List.contains_iff_mem.mp hmem) h

/-- A name with `Helper` at its end is an identifier if what stands in front of it is one, or is
nothing at all. -/
theorem isIdentifier_of_helper {name : String} {body : List Char}
    (h : name.toList = body ++ "Helper".toList) :
    isIdentifier name = true ↔ (∀ d ∈ body, inIdentifier d = true) ∧
      ∀ kind, body.head?.map (fun d => nameKind d.toNat) = some kind → kind.Leads := by
  have hreserved : reservedWords.contains name = false := not_reserved ⟨body, h.symm⟩
  have hsuffix : "Helper".toList.all inIdentifier = true := by decide +kernel
  unfold isIdentifier
  rw [h, hreserved]
  cases body with
  | nil => exact iff_of_true (by decide +kernel) ⟨nofun, nofun⟩
  | cons d rest =>
    have hfirst : (beginsIdentifier d || d == '_' && !(rest ++ "Helper".toList).isEmpty) = true ↔
        (nameKind d.toNat).Leads := by
      simp [NameKind.Leads, beginsIdentifier_iff, nameKind_eq_underscore_iff]
    have hin : (nameKind d.toNat).Leads → inIdentifier d = true := by
      rw [inIdentifier_iff]
      rintro (hkind | hkind) <;> simp [hkind]
    dsimp only [List.cons_append]
    rw [Bool.not_false, Bool.and_true, Bool.and_eq_true, hfirst, List.all_append, hsuffix,
      Bool.and_true, List.all_eq_true, List.forall_mem_cons]
    simp only [List.head?_cons, Option.map_some, Option.some.injEq, forall_eq']
    exact ⟨fun ⟨hkind, hrest⟩ => ⟨⟨hin hkind, hrest⟩, hkind⟩,
      fun ⟨⟨_, hrest⟩, hkind⟩ => ⟨hkind, hrest⟩⟩

theorem isIdentifier_helperTypeName (helper : String) :
    isIdentifier (helperTypeName helper) = true ↔ FitsIdentifier helper := by
  obtain ⟨hall, hhead⟩ := capitalized_words (Text.split '_' helper.toList)
  rw [Text.flatten_split] at hall hhead
  have hleads : ∀ c, helper.toList.find? (fun c => decide (c ≠ '_')) = some c →
      ((nameKind c.toNat).capital.Leads ↔ beginsIdentifier c = true ∨ c = '\u0345') :=
    fun c hc => capital_leads_iff (by simpa using List.find?_some hc)
  have hname := String.toList_ofList
    (l := (Text.split '_' helper.toList).flatMap capitalized ++ "Helper".toList)
  rw [helperTypeName, isIdentifier_of_helper hname, hall, hhead, all_inIdentifier_filter,
    List.head?_filter]
  simp only [Option.map_eq_some_iff]
  constructor
  · rintro ⟨hchars, hkind⟩
    exact ⟨hchars, fun c hc => (hleads c hc).mp (hkind _ ⟨c, hc, rfl⟩)⟩
  · rintro ⟨hchars, hbegins⟩
    refine ⟨hchars, ?_⟩
    rintro _ ⟨c, hc, rfl⟩
    exact (hleads c hc).mpr (hbegins c hc)

/-! ## Literals -/

/-- A text with a line feed for each carriage return and line feed. -/
def unixNewlines : List Char → List Char
  | '\r' :: '\n' :: rest => '\n' :: unixNewlines rest
  | c :: rest => c :: unixNewlines rest
  | [] => []

/-- Where a reader of a literal is. -/
inductive LiteralState where
  | plain
  /-- Behind a backslash. -/
  | escape
  /-- In front of the first digit of a byte. -/
  | byteHigh
  | byteLow (high : Nat)
  /-- In front of the brace that opens a code point. -/
  | codeOpen
  | code (digits value : Nat)
  /-- Behind a backslash at the end of a line, where white space does not count. -/
  | gap

/-- The literal may end here. -/
def LiteralState.closes : LiteralState → Bool
  | plain | gap => true
  | _ => false

def plainStep (c : Char) : Option (LiteralState × Option Char) :=
  if c = '\\' then some (.escape, none)
  else if c = '\r' then none
  else some (.plain, some c)

/-- Reads one character that does not end the literal, and tells what it adds to the value. -/
def literalStep : LiteralState → Char → Option (LiteralState × Option Char)
  | .plain, c => plainStep c
  | .escape, c =>
    match c with
    | 'n' => some (.plain, some '\n')
    | 'r' => some (.plain, some '\r')
    | 't' => some (.plain, some '\t')
    | '0' => some (.plain, some '\x00')
    | '\\' | '"' | '\'' => some (.plain, some c)
    | '\n' => some (.gap, none)
    | 'x' => some (.byteHigh, none)
    | 'u' => some (.codeOpen, none)
    | _ => none
  | .byteHigh, c => (hexValue? c).bind fun d => if d < 8 then some (.byteLow d, none) else none
  | .byteLow high, c => (hexValue? c).map fun d => (.plain, some (Char.ofNat (high * 16 + d)))
  | .codeOpen, c => if c = '\x7b' then some (.code 0 0, none) else none
  | .code digits value, c =>
    if c = '\x7d' then
      if digits = 0 then none else (charOf? value).map fun c => (.plain, some c)
    else if c = '_' then
      if digits = 0 then none else some (.code digits value, none)
    else
      (hexValue? c).bind fun d =>
        if digits < 6 then some (.code (digits + 1) (value * 16 + d), none) else none
  | .gap, c => if c ∈ [' ', '\t', '\n', '\r'] then some (.gap, none) else plainStep c

/-- The value of the rest of a literal, up to the double quote that ends it and the text. -/
def readLiteral : LiteralState → List Char → Option (List Char)
  | _, [] => none
  | state, c :: rest =>
    if state.closes ∧ c = '"' then
      if rest.isEmpty then some [] else none
    else
      match literalStep state c with
      | none => none
      | some (state', out) => (readLiteral state' rest).map (out.toList ++ ·)

/-- The value of a text that is a string literal. -/
def literalValue? (text : String) : Option String :=
  match unixNewlines text.toList with
  | '"' :: rest => (readLiteral .plain rest).map String.ofList
  | _ => none

/-- A character that stands for itself in a literal. -/
def StandsForItself (c : Char) : Prop := c ≠ '"' ∧ c ≠ '\\' ∧ c ≠ '\r'

instance : DecidablePred StandsForItself := fun c =>
  inferInstanceAs (Decidable (c ≠ '"' ∧ c ≠ '\\' ∧ c ≠ '\r'))

theorem readLiteral_length {state : LiteralState} {cs value : List Char}
    (h : readLiteral state cs = some value) : value.length < cs.length := by
  induction cs generalizing state value with
  | nil => cases h
  | cons c rest ih =>
    unfold readLiteral at h
    split at h
    · split at h <;> cases h
      exact Nat.zero_lt_succ _
    · split at h
      · cases h
      next state' out hstep =>
        obtain ⟨value', hvalue, rfl⟩ := Option.map_eq_some_iff.mp h
        have hout : out.toList.length ≤ 1 := by cases out <;> simp
        have hrest := ih hvalue
        rw [List.length_append, List.length_cons]
        omega

theorem readLiteral_plain_cons {c : Char} {rest value : List Char} (hquote : c ≠ '"')
    (h : readLiteral .plain (c :: rest) = some value) :
    readLiteral .escape rest = some value ∨ StandsForItself c ∧
      ∃ value', readLiteral .plain rest = some value' ∧ value = c :: value' := by
  rw [readLiteral, if_neg fun hc => hquote hc.2, literalStep, plainStep] at h
  by_cases hslash : c = '\\'
  · rw [if_pos hslash] at h
    obtain ⟨value', hvalue, rfl⟩ := Option.map_eq_some_iff.mp h
    exact .inl hvalue
  · rw [if_neg hslash] at h
    by_cases hreturn : c = '\r'
    · rw [if_pos hreturn] at h
      cases h
    · rw [if_neg hreturn] at h
      obtain ⟨value', hvalue, rfl⟩ := Option.map_eq_some_iff.mp h
      exact .inr ⟨⟨hquote, hslash, hreturn⟩, value', hvalue, rfl⟩

/-- A literal that is no longer than its value has no escapes. -/
theorem readLiteral_plain_of_length {cs value : List Char}
    (h : readLiteral .plain cs = some value) (hlength : cs.length ≤ value.length + 1) :
    cs = value ++ ['"'] ∧ ∀ c ∈ value, StandsForItself c := by
  induction cs generalizing value with
  | nil => cases h
  | cons c rest ih =>
    by_cases hquote : c = '"'
    · rw [readLiteral, if_pos ⟨rfl, hquote⟩] at h
      split at h <;> cases h
      next hempty =>
        rw [List.isEmpty_iff.mp hempty, hquote]
        exact ⟨rfl, nofun⟩
    · rcases readLiteral_plain_cons hquote h with hvalue | ⟨hc, value', hvalue, rfl⟩
      · -- the backslash adds nothing to the value, so the value is too short
        have hrest := readLiteral_length hvalue
        rw [List.length_cons] at hlength
        omega
      · obtain ⟨rfl, hvalue'⟩ := ih hvalue (Nat.le_of_succ_le_succ hlength)
        exact ⟨rfl, List.forall_mem_cons.mpr ⟨hc, hvalue'⟩⟩

theorem readLiteral_of_standsForItself {value : List Char} (h : ∀ c ∈ value, StandsForItself c) :
    readLiteral .plain (value ++ ['"']) = some value := by
  induction value with
  | nil => rfl
  | cons c rest ih =>
    obtain ⟨⟨hquote, hslash, hreturn⟩, hrest⟩ := List.forall_mem_cons.mp h
    rw [List.cons_append, readLiteral, if_neg (fun hc => hquote hc.2), literalStep, plainStep,
      if_neg hslash, if_neg hreturn]
    dsimp only
    rw [ih hrest]
    rfl

theorem unixNewlines_eq_or_lt (cs : List Char) :
    unixNewlines cs = cs ∨ (unixNewlines cs).length < cs.length := by
  fun_induction unixNewlines cs with
  | case1 rest ih =>
    have hrest : (unixNewlines rest).length ≤ rest.length := by
      rcases ih with h | h
      · rw [h]
      · exact Nat.le_of_lt h
    simp only [List.length_cons]
    omega
  | case2 c rest _ ih => exact ih.imp (congrArg _) Nat.succ_lt_succ
  | case3 => exact .inl rfl

theorem unixNewlines_of_not_mem {cs : List Char} (h : '\r' ∉ cs) : unixNewlines cs = cs := by
  fun_induction unixNewlines cs with
  | case1 rest ih => exact absurd List.mem_cons_self h
  | case2 c rest _ ih => rw [ih fun hmem => h (List.mem_cons_of_mem c hmem)]
  | case3 => rfl

/-- A text in double quotes is a literal for itself just if each of its characters is. -/
theorem literalValue?_quoted (text : String) :
    literalValue? ("\"" ++ text ++ "\"") = some text ↔ ∀ c ∈ text.toList, StandsForItself c := by
  have hquoted : ("\"" ++ text ++ "\"").toList = '"' :: (text.toList ++ ['"']) := by
    simp [String.toList_append]
  rw [literalValue?, hquoted]
  constructor
  · intro h
    split at h
    next rest hrest =>
      obtain ⟨value, hvalue, rfl⟩ := Option.map_eq_some_iff.mp h
      have hshort := readLiteral_length hvalue
      rw [String.toList_ofList] at *
      rcases unixNewlines_eq_or_lt ('"' :: (value ++ ['"'])) with hsame | hlt
      · obtain rfl : value ++ ['"'] = rest := (List.cons_inj_right _).mp (hsame.symm.trans hrest)
        exact (readLiteral_plain_of_length hvalue (by simp)).2
      · -- what is left is no longer than the value, and the double quotes do not fit in
        rw [hrest] at hlt
        simp only [List.length_cons, List.length_append, List.length_nil] at hlt
        omega
    next => cases h
  · intro h
    have hreturn : '\r' ∉ '"' :: (text.toList ++ ['"']) := by
      have hmem : '\r' ∉ text.toList := fun hmem => (h _ hmem).2.2 rfl
      simp [hmem]
    rw [unixNewlines_of_not_mem hreturn]
    show (readLiteral .plain (text.toList ++ ['"'])).map String.ofList = some text
    rw [readLiteral_of_standsForItself h, Option.map_some, String.ofList_toList]

/-! ## The template -/

/-- How to register a provider: its type is named, and it is registered under a literal. -/
def providerTemplate (typeName literal : String) : String := textOfLines
  ["#[derive(Default)]",
    "struct " ++ typeName ++ ";",
    "",
    "impl ScenarioHooks for " ++ typeName ++ " \x7b\x7d",
    "",
    "impl StepDefinitions for " ++ typeName ++ " \x7b",
    "    fn register(steps: &mut StepRegistry<Self>) -> Result<(), RegistryError> \x7b",
    "        Ok(())",
    "    \x7d",
    "\x7d",
    "",
    "catalog.register_world::<" ++ typeName ++ ">(" ++ literal ++ ");"]

theorem noProvider_message (helper typeName path : String) :
    ∃ introduction, (noProvider helper typeName path).message =
      introduction ++ providerTemplate typeName ("\"" ++ helper ++ "\"") := by
  have hquoted : "catalog.register_world::<" ++ typeName ++ ">(\"" ++ helper ++ "\");" =
      "catalog.register_world::<" ++ typeName ++ ">(" ++ ("\"" ++ helper ++ "\"") ++ ");" :=
    String.toList_injective (by simp [String.toList_append])
  refine ⟨textOfLines ["No step definitions registered for " ++ path ++
    ". Register a world under \"" ++ helper ++ "\". You can use the following template:", ""], ?_⟩
  dsimp only [message]
  rw [hquoted, providerTemplate, ← Text.textOfLines_append, List.cons_append, List.cons_append,
    List.nil_append]

end Advice

namespace Catalog

theorem lookup_cons (name helper : String) (entry : Except RegistryError LiveExecutor)
    (entries : List (String × Except RegistryError LiveExecutor)) :
    ((name, entry) :: entries).lookup helper =
      if helper = name then some entry else entries.lookup helper := by
  rw [List.lookup_cons]
  cases hname : helper == name with
  | true => rw [if_pos (eq_of_beq hname)]
  | false => rw [if_neg (ne_of_beq_false hname)]

theorem lookup_insert (name helper : String) (entry : Except RegistryError LiveExecutor)
    (entries : List (String × Except RegistryError LiveExecutor)) :
    (insert name entry entries).lookup helper =
      if helper = name then some entry else entries.lookup helper := by
  induction entries with
  | nil => exact lookup_cons name helper entry []
  | cons e rest ih =>
    obtain ⟨key, value⟩ := e
    unfold insert
    split
    · exact lookup_cons name helper entry _
    · split
      next h =>
        subst h
        rw [lookup_cons, lookup_cons]
        split <;> rfl
      next h =>
        rw [lookup_cons, lookup_cons, ih]
        by_cases hname : helper = name
        · rw [if_pos hname, if_neg (hname ▸ h), if_pos hname]
        · rw [if_neg hname, if_neg hname]

theorem instantiate_register (c : Catalog) (name helper : String)
    (entry : Except RegistryError LiveExecutor) :
    (c.register name entry).instantiate helper =
      if helper = name then some entry else c.instantiate helper :=
  lookup_insert name helper entry c.entries

end Catalog

/-- A provider that is registered where there was none is found by the helper just if it is
registered under the name of the helper. -/
theorem executorFor_register {catalog : Catalog} {helper : String}
    (h : catalog.instantiate helper = none) (name path : String) (live : LiveExecutor) :
    executorFor (catalog.register name (.ok live)) helper path = .ok (live, []) ↔
      name = helper := by
  rw [executorFor, Catalog.instantiate_register]
  by_cases hname : helper = name
  · simp [hname]
  · simp [hname, h, Ne.symm hname]

theorem runFeature_of_missing {ρ : Type} {fs : FileSystem} {catalog : Catalog}
    {path helper text : String} (hhelper : helperName? path = some helper)
    (htext : fs.readText path = .ok text) (hmissing : catalog.instantiate helper = none)
    (R : Reporter ρ) (r : ρ) :
    runFeature fs catalog R path r =
      runText R path text .null [.noProvider helper (helperTypeName helper) path] r := by
  simp only [runFeature, hhelper, htext, executorFor, hmissing]

/-- What is printed for a feature file without a provider. In the template, the name of the type is
an identifier just if the helper fits, and the literal is one for the helper just if each of its
characters stands for itself. A provider that is registered under the value of the literal is found
for the file just if that value is the helper. -/
theorem provider_template_exact {path helper : String} (h : helperName? path = some helper) :
    let typeName := helperTypeName helper
    let literal := "\"" ++ helper ++ "\""
    (∀ (fs : FileSystem) (catalog : Catalog) (text : String), fs.readText path = .ok text →
      catalog.instantiate helper = none → ∀ (ρ : Type) (R : Reporter ρ) (r : ρ),
        runFeature fs catalog R path r =
          runText R path text .null [.noProvider helper typeName path] r) ∧
    (∃ introduction, (Advice.noProvider helper typeName path).message =
      introduction ++ Advice.providerTemplate typeName literal) ∧
    (Advice.isIdentifier typeName = true ↔ Advice.FitsIdentifier helper) ∧
    (Advice.literalValue? literal = some helper ↔
      ∀ c ∈ helper.toList, Advice.StandsForItself c) ∧
    ∀ value, Advice.literalValue? literal = some value →
      ∀ (catalog : Catalog) (live : LiveExecutor), catalog.instantiate helper = none →
        (executorFor (catalog.register value (.ok live)) helper path = .ok (live, []) ↔
          value = helper) := by
  refine ⟨fun fs catalog text htext hmissing ρ R r => runFeature_of_missing h htext hmissing R r,
    Advice.noProvider_message helper _ path, Advice.isIdentifier_helperTypeName helper,
    Advice.literalValue?_quoted helper, fun value _ catalog live hmissing => ?_⟩
  exact executorFor_register hmissing value path live

/-- A capital sharp s becomes two letters, and a subscript iota a letter. -/
theorem provider_template_exact_letters :
    helperName? "features/ẞ_\u0345_2.feature" = some "ẞ_\u0345_2" ∧
      helperTypeName "ẞ_\u0345_2" = "SSΙ2Helper" ∧ Advice.isIdentifier "SSΙ2Helper" = true ∧
      Advice.literalValue? "\"ẞ_\u0345_2\"" = some "ẞ_\u0345_2" := by
  have hhelper : helperName? "features/ẞ_\u0345_2.feature" = some "ẞ_\u0345_2" := by
    decide +kernel
  have hname : helperTypeName "ẞ_\u0345_2" = "SSΙ2Helper" := by decide +kernel
  obtain ⟨-, -, hidentifier, hliteral, -⟩ := provider_template_exact hhelper
  have hplain : "ẞ_\u0345_2".toList.all (fun c => decide (Advice.StandsForItself c)) = true := by
    decide
  refine ⟨hhelper, hname, hname ▸ hidentifier.mpr ⟨?_, ?_⟩, hliteral.mpr fun c hc => ?_⟩
  · exact List.all_eq_true.mp (by decide +kernel)
  · intro c hc
    obtain rfl : 'ẞ' = c := Option.some.inj hc
    exact .inl (by decide +kernel)
  · exact of_decide_eq_true (List.all_eq_true.mp hplain c hc)

/-- A hyphen stands in no identifier, and a double quote ends the literal. -/
theorem provider_template_broken :
    helperName? "my-cart.feature" = some "my-cart" ∧
      Advice.isIdentifier (helperTypeName "my-cart") = false ∧
    helperName? "2nd.feature" = some "2nd" ∧ Advice.isIdentifier (helperTypeName "2nd") = false ∧
    helperName? "my\"cart.feature" = some "my\"cart" ∧
      Advice.literalValue? "\"my\"cart\"" = none ∧
    helperName? "my\\ncart.feature" = some "my\\ncart" ∧
      Advice.literalValue? "\"my\\ncart\"" = some "my\ncart" := by
  decide +kernel

end FeatureScript
