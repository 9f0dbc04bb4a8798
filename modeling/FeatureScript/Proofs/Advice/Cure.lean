import FeatureScript.Proofs.Grammar.Payload
import FeatureScript.Proofs.Pattern.Literal
import FeatureScript.Proofs.Report.Log
import FeatureScript.Proofs.Script.Conjunction
import FeatureScript.Proofs.Script.Simulation

/-!
# FeatureScript.Proofs.Advice.Cure

What becomes of a script when the advice on its missing steps is followed.

Each missing step is advised to be registered under the pattern of its text. The pattern is that of
the trimmed text, so it takes the step if no white space stands at the end of it; and it is accepted
if the text is not too long. `advice_cures`: a script that was run well then runs well again, and
only steps whose texts end in white space may still be missing. `advice_does_not_cure` shows both
limits.
-/

namespace FeatureScript

variable {W σ ρ : Type}

/-- The handler that does nothing. -/
def idle : Handler W := fun _ world => { world }

/-- The definition that an advice suggests, with nothing to do yet. -/
def Advice.definition? : Advice → Option (Keyword × String × Handler W)
  | .missingStep _ keyword text => some (keyword, literalPattern text, idle)
  | _ => none

/-- The definitions that the advice of a log suggests, in order. -/
def AdviceLog.suggestions (log : AdviceLog ρ) : List (Keyword × String × Handler W) :=
  log.advice.filterMap Advice.definition?

/-- What is suggested for a missing step. -/
def MissingNote.suggestion (n : MissingNote) : Keyword × String × Handler W :=
  (n.keyword, literalPattern n.text, idle)

/-- The definition that is suggested for a missing step, when it is registered. -/
def Definition.suggested (n : MissingNote) : Definition W :=
  ⟨n.keyword, literalStep n.text, idle⟩

/-! ## The suggestions of a log -/

namespace AdviceLog

theorem suggestions_eq (log : AdviceLog ρ) :
    log.suggestions (W := W) = log.missing.map MissingNote.suggestion := by
  have hscenarios : (if log.tally.scenarios = 0 then [Advice.noScenarios] else []).filterMap
      (Advice.definition? (W := W)) = [] := by
    split <;> rfl
  have hunasserted : (log.unasserted.map Advice.noAssertions).filterMap
      (Advice.definition? (W := W)) = [] := by
    rw [List.filterMap_map]
    exact List.filterMap_eq_nil_iff.mpr fun _ _ => rfl
  rw [suggestions, advice, List.filterMap_append, List.filterMap_append, hscenarios, hunasserted,
    List.append_nil, List.nil_append, List.filterMap_map, ← List.filterMap_eq_map]
  rfl

theorem missingStep_mem_advice {log : AdviceLog ρ} {number : Nat} {k : Keyword} {text : String} :
    .missingStep number k text ∈ log.advice ↔ ⟨number, k, text⟩ ∈ log.missing := by
  have hscenarios : .missingStep number k text ∉
      (if log.tally.scenarios = 0 then [Advice.noScenarios] else []) := by
    split <;> simp
  constructor
  · intro h
    rcases List.mem_append.mp h with h | h
    · rcases List.mem_append.mp h with h | h
      · exact absurd h hscenarios
      · obtain ⟨n, hn, heq⟩ := List.mem_map.mp h
        cases heq
        exact hn
    · obtain ⟨number, -, heq⟩ := List.mem_map.mp h
      cases heq
  · intro h
    exact List.mem_append_left _ (List.mem_append_right _ (List.mem_map_of_mem h))

theorem missingNote_eq_some_iff {e : Event} {n : MissingNote} :
    missingNote? e = some n ↔ ∃ line w, e = .step line (.missing n.keyword) ∧
      line.token = .step w n.text ∧ line.number = n.lineNumber := by
  constructor
  · intro h
    cases e with
    | step line result =>
      cases result with
      | missing k =>
        simp only [missingNote?] at h
        split at h
        · rename_i w t ht
          cases h
          exact ⟨line, w, rfl, ht, rfl⟩
        · cases h
      | _ => cases h
    | _ => cases h
  · rintro ⟨line, w, rfl, ht, hnumber⟩
    simp only [missingNote?, ht, hnumber]

end AdviceLog

/-! ## Registering the suggestions -/

theorem Registry.registerAll_suggested (r s : Registry W) {notes : List MissingNote}
    (hprimary : ∀ n ∈ notes, n.keyword.isConjunction = false) :
    r.registerAll (notes.map MissingNote.suggestion) = .ok s ↔
      (∀ n ∈ notes, (Text.trimmed n.text).utf8ByteSize ≤ 327674) ∧
        s = ⟨r.definitions ++ notes.map .suggested⟩ := by
  induction notes generalizing r with
  | nil => simp [registerAll, eq_comm]
  | cons n rest ih =>
    obtain ⟨hn, hrest⟩ := List.forall_mem_cons.mp hprimary
    rw [List.map_cons, MissingNote.suggestion, registerAll, register, hn, compile_literal,
      List.forall_mem_cons]
    by_cases hfits : (Text.trimmed n.text).utf8ByteSize ≤ 327674
    · simp only [hfits, if_true, Bool.false_eq_true, if_false, ih _ hrest, true_and,
        List.append_assoc, List.map_cons]
      rfl
    · simp only [hfits, if_false, Bool.false_eq_true, false_and, reduceCtorEq]

section

variable {r : Registry W} {notes : List MissingNote} {k : Keyword} {text : String}

/-- A definition that is suggested for a text that is trimmed takes it. -/
theorem Definition.suggested_takes {n : MissingNote} (h : Text.trimmed n.text = n.text) :
    (suggested (W := W) n).Takes n.keyword n.text [] :=
  ⟨rfl, by rw [suggested, literal_captures, if_pos h.symm]⟩

/-- The world after a step does not depend on the suggestions. -/
theorem dispatch_suggested (world : W) :
    (dispatch ⟨r.definitions ++ notes.map .suggested⟩ world k text).2 =
      (dispatch r world k text).2 := by
  rcases Registry.lacks_or_first r.definitions k text with hlacks | ⟨n, d, captures, hfirst⟩
  · rw [dispatch_of_lacks world hlacks]
    -- a suggestion may take the step now, but its handler leaves the world alone
    rcases Registry.lacks_or_first (r.definitions ++ notes.map .suggested) k text with
      hlacks' | ⟨n, d, captures, hfirst⟩
    · rw [dispatch_of_lacks (r := ⟨_⟩) world hlacks']
    · rw [dispatch_of_first (r := ⟨_⟩) world hfirst]
      rcases List.mem_append.mp (List.mem_of_getElem? hfirst.at_position) with hd | hd
      · exact absurd hfirst.takes (hlacks d hd captures)
      · obtain ⟨note, -, rfl⟩ := List.mem_map.mp hd
        rfl
  · rw [dispatch_of_first world hfirst, dispatch_of_first (r := ⟨_⟩) world (hfirst.append _)]

end

/-! ## Steps that are told of -/

/-- A run that ends well tells of each step line what comes of executing it under the keyword that
governs it. -/
theorem told_step {E : Executor σ} {x : σ} {text source : String} {i : Nat} {line : Line}
    {w k : Keyword} {t : String}
    (h : (interpret E Recording.report x {} text source).1 = .ok ())
    (hline : (scriptLines text source)[i]? = some line) (ht : line.token = .step w t)
    (hgoverns : Governs ((scriptLines text source).map Line.token) i k) :
    ∃ y, .step line (E.execute y k t).1 ∈
      (interpret E Recording.report x {} text source).2.reporter.events := by
  obtain ⟨e, he, htells⟩ : ∃ e ∈ (interpret E Recording.report x {} text source).2.reporter.events,
      Tells line e := by
    obtain ⟨hi, rfl⟩ := List.getElem?_eq_some_iff.mp hline
    have htells := List.forall₂_iff_get.mp (tells_of_ok h)
    exact ⟨_, List.get_mem _ _, htells.2 i hi (htells.1 ▸ hi)⟩
  unfold Tells at htells
  rw [ht] at htells
  obtain ⟨result, rfl⟩ := htells
  obtain ⟨i', w', t', k', y, hline', ht', hgoverns', rfl⟩ := reported_step he
  rw [ht] at ht'
  cases ht'
  have hi : i = i' := by
    have hnumber := (scriptLines_getElem hline).1
    have hnumber' := (scriptLines_getElem hline').1
    omega
  subst hi
  cases hgoverns.unique hgoverns'
  exact ⟨y, he⟩

/-! ## Following the advice -/

/-- With the suggestions, a script runs through the same worlds. -/
theorem Provider.suggested_simulation (p : Provider W) (notes : List MissingNote)
    (R : Reporter ρ) :
    Simulation p.executor R
      (Provider.executor ⟨⟨p.registry.definitions ++ notes.map .suggested⟩, p.hooks⟩) R 0
      fun x _ y _ => x = y where
  setUp := by rintro x - y - rfl; exact ⟨_, rfl, rfl⟩
  tearDown := by rintro x - y - rfl; exact ⟨_, rfl, rfl⟩
  execute := by rintro x - y - line w t k - rfl; exact (dispatch_suggested x).symm
  other := fun _ _ h => h

/-- The notes on the missing steps of a run. -/
def missingNotes (p : Provider W) (world : W) (text source : String) : List MissingNote :=
  (interpret p.executor Recording.report world {} text source).2.reporter.events.filterMap
    AdviceLog.missingNote?

section

variable {p : Provider W} {world : W} {text source : String} {line : Line} {w k : Keyword}
  {t : String}

theorem missingNotes_primary (p : Provider W) (world : W) (text source : String) :
    ∀ n ∈ missingNotes p world text source, n.keyword.isConjunction = false := by
  intro n hn
  obtain ⟨e, he, hnote⟩ := List.mem_filterMap.mp hn
  obtain ⟨line, w, rfl, -, -⟩ := AdviceLog.missingNote_eq_some_iff.mp hnote
  exact missing_primary world text source (fun _ _ _ _ => dispatch_missing) he

theorem mem_missingNotes (ht : line.token = .step w t) (h : .step line (.missing k) ∈
      (interpret p.executor Recording.report world {} text source).2.reporter.events) :
    ⟨line.number, k, t⟩ ∈ missingNotes p world text source :=
  List.mem_filterMap.mpr ⟨_, h, AdviceLog.missingNote_eq_some_iff.mpr ⟨line, w, rfl, ht, rfl⟩⟩

/-- The suggestions take each missing step without white space at its end. -/
theorem not_lacks_suggested (ht : line.token = .step w t) (hend : EndsPlain t)
    (h : .step line (.missing k) ∈
      (interpret p.executor Recording.report world {} text source).2.reporter.events) :
    ¬ Registry.Lacks ((missingNotes p world text source).map (Definition.suggested (W := W))) k t :=
  fun hlacks => hlacks _ (List.mem_map_of_mem (mem_missingNotes ht h)) []
    (Definition.suggested_takes (trimmed_of_step ht hend))

/-- What is missing with more definitions was missing before, and they lack it. -/
theorem missing_of_more {more : List (Definition W)} {world' : W}
    (hok : (interpret p.executor Recording.report world {} text source).1 = .ok ())
    (h : .step line (.missing k) ∈ (interpret (Provider.executor
      ⟨⟨p.registry.definitions ++ more⟩, p.hooks⟩) Recording.report world' {} text
        source).2.reporter.events) :
    .step line (.missing k) ∈
        (interpret p.executor Recording.report world {} text source).2.reporter.events ∧
      ∃ w t, line.token = .step w t ∧ Registry.Lacks more k t := by
  obtain ⟨i, w, t, k', y, hline, ht, hgoverns, hmissing⟩ := reported_step h
  obtain rfl : k = k' := dispatch_missing hmissing
  obtain ⟨hbefore, hmore⟩ := Registry.lacks_append.mp (lacks_of_missing hmissing)
  -- the keyword that governs a line is the same in both runs
  obtain ⟨y', htold⟩ := told_step hok hline ht hgoverns
  have hresult : (p.executor.execute y' k t).1 = .missing k :=
    congrArg Prod.fst (dispatch_of_lacks y' hbefore)
  rw [hresult] at htold
  exact ⟨htold, w, t, ht, hmore⟩

end

/-- A log notes the missing steps. -/
theorem AdviceLog.interpret_missing (p : Provider W) (R : Reporter ρ) (r : ρ) (world : W)
    (text source : String) :
    (interpret p.executor (report R) world { inner := r } text source).2.reporter.missing =
      missingNotes p world text source := by
  rw [interpret_reportAll]
  exact congrArg AdviceLog.missing (reportAll_eq R _ _)

/-- Following the advice on missing steps. The suggested definitions are accepted, behind those that
there are, exactly if none of the texts is too long. Then each step that was missing and has no
white space at its end is found under the keyword and the text it was looked up with. No matter in
which state the script is run again, only steps that were missing before may be missing, and only
with white space at their ends; and if it starts in the same state, it ends in the same state, and
well. The executor without definitions is that of an empty registry. -/
theorem advice_cures (p : Provider W) (R : Reporter ρ) (r : ρ) (world : W) (text source : String)
    (h : (interpret p.executor (AdviceLog.report R) world { inner := r } text source).1 = .ok ()) :
    let log :=
      (interpret p.executor (AdviceLog.report R) world { inner := r } text source).2.reporter
    let run := interpret p.executor Recording.report world {} text source
    Executor.null = Provider.executor { registry := .empty } ∧
    ((∃ extended, p.registry.registerAll log.suggestions = .ok extended) ↔
      ∀ number k t, .missingStep number k t ∈ log.advice →
        (Text.trimmed t).utf8ByteSize ≤ 327674) ∧
    ∀ extended, p.registry.registerAll log.suggestions = .ok extended →
      let rerun := fun world' =>
        interpret (Provider.executor ⟨extended, p.hooks⟩) Recording.report world' {} text source
      (∀ line k w t, .step line (.missing k) ∈ run.2.reporter.events → line.token = .step w t →
        EndsPlain t → ∃ found, extended.resolve k t = some found) ∧
      (∀ world' line k, .step line (.missing k) ∈ (rerun world').2.reporter.events →
        .step line (.missing k) ∈ run.2.reporter.events ∧
          ∃ w t, line.token = .step w t ∧ ¬ EndsPlain t) ∧
      (rerun world).1 = .ok () ∧ (rerun world).2.executor = run.2.executor := by
  intro log run
  have hok : run.1 = .ok () := by
    rw [interpret_reportAll] at h
    exact h
  have hlog : log.missing = missingNotes p world text source :=
    AdviceLog.interpret_missing p R r world text source
  have hregister := fun s => Registry.registerAll_suggested p.registry s
    (missingNotes_primary p world text source)
  have hsuggestions : log.suggestions (W := W) =
      (missingNotes p world text source).map MissingNote.suggestion := by
    rw [← hlog]
    exact log.suggestions_eq
  rw [← hsuggestions] at hregister
  refine ⟨rfl, ?_, ?_⟩
  · simp only [hregister, exists_and_left, exists_eq, and_true, AdviceLog.missingStep_mem_advice,
      hlog]
    exact ⟨fun hfits number k t hn => hfits ⟨number, k, t⟩ hn,
      fun hfits n hn => hfits n.lineNumber n.keyword n.text hn⟩
  · intro extended hextended rerun
    obtain ⟨-, rfl⟩ := (hregister extended).mp hextended
    refine ⟨?_, ?_, ?_⟩
    · intro line k w t hmissing ht hend
      refine Option.ne_none_iff_exists'.mp fun hnone => not_lacks_suggested ht hend hmissing ?_
      exact (Registry.lacks_append.mp ((Registry.resolve_eq_none_iff _ k t).mp hnone)).2
    · intro world' line k hmissing
      obtain ⟨hbefore, w, t, ht, hlacks⟩ := missing_of_more hok hmissing
      exact ⟨hbefore, w, t, ht, fun hend => not_lacks_suggested ht hend hbefore hlacks⟩
    · have halike : Stage.Alike 0 (fun x _ y _ => x = y) run (rerun world) :=
        (p.suggested_simulation _ Recording.report).interpret ⟨.refl _, rfl⟩ text source
      exact ⟨halike.outcome.trans (congrArg _ hok), halike.states.symm⟩

/-- Two missing steps whose advice is followed, one of them a conjunction, are missing no more. -/
theorem advice_cures_cash :
    let log := (interpret Executor.null (AdviceLog.report Recording.report) () { inner := {} }
      "Given I pay $5 (cash)\nAnd I jump" "a").2.reporter
    ∃ extended : Registry Unit,
      Registry.empty.registerAll log.suggestions = .ok extended ∧
      (∃ found, extended.resolve .given "I pay $5 (cash)" = some found) ∧
      (∃ found, extended.resolve .given "I jump" = some found) ∧
      ∀ world' line k, .step line (.missing k) ∉ (interpret (Provider.executor ⟨extended, {}⟩)
        Recording.report world' {} "Given I pay $5 (cash)\nAnd I jump" "a").2.reporter.events := by
  intro log
  have hmissing : ∀ line k, .step line (.missing k) ∈ (interpret Executor.null Recording.report ()
      {} "Given I pay $5 (cash)\nAnd I jump" "a").2.reporter.events →
      line.token = .step .given "I pay $5 (cash)" ∨ line.token = .step .and "I jump" := by
    intro line k h
    rcases List.mem_cons.mp h with h | h
    · cases h
      exact .inl rfl
    · cases List.mem_singleton.mp h
      exact .inr rfl
  obtain ⟨-, hroom, hcure⟩ := advice_cures { registry := .empty } Recording.report {} ()
    "Given I pay $5 (cash)\nAnd I jump" "a" rfl
  obtain ⟨extended, hextended⟩ := hroom.mpr fun number k t h => by
    rcases List.mem_cons.mp h with h | h
    · cases h
    · rcases List.mem_cons.mp h with h | h
      · cases h
        decide
      · cases List.mem_singleton.mp h
        decide
  obtain ⟨hfound, hrerun, -⟩ := hcure extended hextended
  refine ⟨extended, hextended, ?_, ?_, fun world' line k h => ?_⟩
  · exact hfound ⟨"Given I pay $5 (cash)", 1, "a"⟩ .given .given _ (List.mem_cons_self ..) rfl
      (by decide)
  · exact hfound ⟨"And I jump", 2, "a"⟩ .given .and _
      (List.mem_cons_of_mem _ (List.mem_singleton_self _)) rfl (by decide)
  · obtain ⟨hbefore, w, t, ht, hend⟩ := hrerun world' line k h
    rcases hmissing line k hbefore with htoken | htoken
    · rw [htoken] at ht
      cases ht
      exact hend (by decide)
    · rw [htoken] at ht
      cases ht
      exact hend (by decide)

/-! ## What is not cured -/

theorem interpret_step (E : Executor σ) (R : Reporter ρ) (x : σ) (r : ρ) {text source : String}
    {line : Line} {k : Keyword} {t : String} (hlines : scriptLines text source = [line])
    (ht : line.token = .step k t) (hk : k.isConjunction = false) :
    interpret E R x r text source = (.ok (),
      { interpreter := { unscoped := ⟨some k⟩ }
        executor := (E.execute x k t).2
        reporter := R r (.step line (E.execute x k t).1) }) := by
  simp only [interpret, Stage.interpret, hlines, Stage.acceptAll, Stage.accept, ht]
  cases k <;> first | rfl | cases hk

/-- The line of a `Given` step, alone in its script. -/
def givenLine (t : String) : Line := ⟨"Given " ++ t, 1, "a"⟩

/-- A run of a script of one `Given` step without definitions, with a log of advice. -/
def advisedRun (t : String) : Except InterpretError Unit × Stage Unit (AdviceLog Recording) :=
  interpret Executor.null (AdviceLog.report Recording.report) () { inner := {} }
    (givenLine t).text "a"

section

variable {t : String} {c : Char} {cs : List Char}

theorem givenLine_token (hc : Unicode.isBlank c = false) (hline : '\n' ∉ c :: cs)
    (ht : t.toList = c :: cs) :
    scriptLines (givenLine t).text "a" = [givenLine t] ∧ (givenLine t).token = .step .given t := by
  have hlist : (givenLine t).text.toList = Keyword.given.name.toList ++ ' ' :: c :: cs := by
    simp only [givenLine, String.toList_append, ht]
    rfl
  have hgiven : '\n' ∉ (givenLine t).text.toList := by
    have hname : '\n' ∉ Keyword.given.name.toList := by decide
    simp only [hlist, List.mem_append, List.mem_cons, not_or] at hline ⊢
    exact ⟨hname, by decide, hline⟩
  refine ⟨scriptLines_of_plain (by simp [hlist]) hgiven "a", ?_⟩
  rw [Line.token, classify, hlist, Grammar.token_of_plain .given hc hline, ← ht,
    String.ofList_toList]

theorem advisedRun_eq (hc : Unicode.isBlank c = false) (hline : '\n' ∉ c :: cs)
    (ht : t.toList = c :: cs) :
    (advisedRun t).1 = .ok () ∧
    (advisedRun t).2.reporter.inner.events = [.step (givenLine t) (.missing .given)] ∧
    (advisedRun t).2.reporter.suggestions (W := W) =
      [MissingNote.suggestion ⟨1, .given, t⟩] := by
  obtain ⟨hlines, htoken⟩ := givenLine_token hc hline ht
  rw [advisedRun, interpret_step _ _ _ _ hlines htoken rfl, AdviceLog.suggestions_eq]
  refine ⟨rfl, rfl, ?_⟩
  simp only [AdviceLog.report, AdviceLog.note, htoken, Executor.null, List.nil_append,
    List.map_singleton]
  rfl

/-- The pattern for a text that is not trimmed does not take it. -/
theorem blank_not_cured (hc : Unicode.isBlank c = false) (hline : '\n' ∉ c :: cs)
    (ht : t.toList = c :: cs) (hblank : t ≠ Text.trimmed t)
    (hfits : (Text.trimmed t).utf8ByteSize ≤ 327674) :
    (advisedRun t).1 = .ok () ∧
    .step (givenLine t) (.missing .given) ∈ (advisedRun t).2.reporter.inner.events ∧
    ∃ extended : Registry Unit,
      Registry.empty.registerAll (advisedRun t).2.reporter.suggestions = .ok extended ∧
      extended.resolve .given t = none ∧
      .step (givenLine t) (.missing .given) ∈
        (interpret (Provider.executor ⟨extended, {}⟩) Recording.report () {} (givenLine t).text
          "a").2.reporter.events := by
  obtain ⟨hok, hevents, hsuggestions⟩ := advisedRun_eq (W := Unit) hc hline ht
  obtain ⟨hlines, htoken⟩ := givenLine_token hc hline ht
  have hlacks : Registry.Lacks [Definition.suggested (W := Unit) ⟨1, .given, t⟩] .given t := by
    intro d hd captures htakes
    rw [List.mem_singleton.mp hd] at htakes
    have hcaptures := htakes.2
    rw [Definition.suggested, literal_captures, if_neg hblank] at hcaptures
    cases hcaptures
  have hregister : Registry.empty.registerAll (advisedRun t).2.reporter.suggestions =
      .ok ⟨[Definition.suggested (W := Unit) ⟨1, .given, t⟩]⟩ := by
    rw [hsuggestions, ← List.map_singleton]
    exact (Registry.registerAll_suggested .empty _ (List.forall_mem_singleton.mpr rfl)).mpr
      ⟨List.forall_mem_singleton.mpr hfits, rfl⟩
  refine ⟨hok, hevents ▸ List.mem_singleton_self _, _, hregister,
    (Registry.resolve_eq_none_iff _ _ _).mpr hlacks, ?_⟩
  have hmissing := dispatch_of_lacks (r := ⟨_⟩) () hlacks
  rw [interpret_step _ _ _ _ hlines htoken rfl]
  simp only [Provider.executor, hmissing]
  exact List.mem_singleton_self _

/-- The pattern for a text that is too long is refused. -/
theorem long_not_cured (hc : Unicode.isBlank c = false) (hline : '\n' ∉ c :: cs)
    (ht : t.toList = c :: cs) (hlong : 327674 < (Text.trimmed t).utf8ByteSize) :
    (advisedRun t).1 = .ok () ∧
    .step (givenLine t) (.missing .given) ∈ (advisedRun t).2.reporter.inner.events ∧
    (Registry.empty (W := Unit)).registerAll (advisedRun t).2.reporter.suggestions =
      .error (.invalid ⟨literalPattern t, .tooLarge⟩) := by
  obtain ⟨hok, hevents, hsuggestions⟩ := advisedRun_eq (W := Unit) hc hline ht
  refine ⟨hok, hevents ▸ List.mem_singleton_self _, ?_⟩
  rw [hsuggestions, MissingNote.suggestion, Registry.registerAll, Registry.register,
    compile_literal, if_neg (Nat.not_le.mpr hlong)]
  rfl

end

/-- A text of `n` small letters is trimmed and takes `n` bytes. -/
theorem trimmed_replicate (n : Nat) :
    (Text.trimmed (String.ofList (List.replicate n 'a'))).utf8ByteSize = n := by
  have htrim : Text.trim (List.replicate n 'a') = List.replicate n 'a' := by
    refine Text.trim_eq_self (fun c hc => ?_) fun c hc => ?_
    · rw [List.eq_of_mem_replicate (List.mem_of_head? hc)]
      rfl
    · rw [List.eq_of_mem_replicate (List.mem_of_getLast? hc)]
      rfl
  have hsize : 'a'.utf8Size = 1 := rfl
  rw [Text.trimmed, String.toList_ofList, htrim, ← Pattern.byteCount_eq, Pattern.byteCount]
  simp [Pattern.Expr.bytesOf, Text.utf8Bytes, hsize]

/-- Steps that are not cured: one with a space at its end, which is missing again, and one that is
too long, whose pattern is refused. -/
theorem advice_does_not_cure :
    ((advisedRun "I jump ").1 = .ok () ∧
      .step (givenLine "I jump ") (.missing .given) ∈
        (advisedRun "I jump ").2.reporter.inner.events ∧
      ∃ extended : Registry Unit,
        Registry.empty.registerAll (advisedRun "I jump ").2.reporter.suggestions = .ok extended ∧
        extended.resolve .given "I jump " = none ∧
        .step (givenLine "I jump ") (.missing .given) ∈
          (interpret (Provider.executor ⟨extended, {}⟩) Recording.report ()
            {} "Given I jump " "a").2.reporter.events) ∧
    ((advisedRun (String.ofList (List.replicate 327675 'a'))).1 = .ok () ∧
      .step (givenLine (String.ofList (List.replicate 327675 'a'))) (.missing .given) ∈
        (advisedRun (String.ofList (List.replicate 327675 'a'))).2.reporter.inner.events ∧
      (Registry.empty (W := Unit)).registerAll
          (advisedRun (String.ofList (List.replicate 327675 'a'))).2.reporter.suggestions =
        .error (.invalid ⟨literalPattern (String.ofList (List.replicate 327675 'a')),
          .tooLarge⟩)) := by
  have hlist : (String.ofList (List.replicate 327675 'a')).toList =
      'a' :: List.replicate 327674 'a' := String.toList_ofList
  refine ⟨blank_not_cured rfl (by decide) rfl (by decide) (by decide),
    long_not_cured rfl ?_ hlist ?_⟩
  · rw [← List.replicate_succ]
    intro h
    cases List.eq_of_mem_replicate h
  · rw [trimmed_replicate]
    decide

end FeatureScript
