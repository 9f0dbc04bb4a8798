import FeatureScript.Proofs.Report.Log
import FeatureScript.Proofs.Script.Conjunction
import FeatureScript.Run.Feature

/-!
# FeatureScript.Proofs.Run.Advice

What a feature file that was run well reports.

First come the events of its lines, and then the advice on them. `Executor.Classifies` says what the
advice relies on: a step is missing under the keyword it was executed under, and only a `Then` is
without assertions. So no step is missing on a line that is none, and no step without assertions
stands on a line that the log passes over. `runFeature_reports`: the advice is complete and in the
order of the lines.
-/

namespace FeatureScript

variable {σ ρ : Type}

/-! ## Executors of providers -/

/-- Steps are missing under the keyword they were executed under, and only a `Then` is without
assertions. -/
structure Executor.Classifies (E : Executor σ) : Prop where
  missing : ∀ {x k t k'}, (E.execute x k t).1 = .missing k' → k' = k
  silent : ∀ {x k t output}, (E.execute x k t).1 = .noAssertions output → k = .then

theorem Executor.null_classifies : Executor.null.Classifies where
  missing h := by cases h; rfl
  silent h := by cases h

theorem Provider.executor_classifies {W : Type} (p : Provider W) : p.executor.Classifies where
  missing := dispatch_missing
  silent := dispatch_noAssertions

/-- The executor of a provider, or the one without definitions. -/
inductive LiveExecutor.Provided : LiveExecutor → Prop where
  | null : Provided .null
  | provider {W : Type} (p : Provider W) (world : W) : Provided (.ofProvider p world)

theorem LiveExecutor.Provided.classifies {live : LiveExecutor} (h : live.Provided) :
    live.executor.Classifies := by
  cases h with
  | null => exact Executor.null_classifies
  | provider p world => exact p.executor_classifies

/-! ## Advice on events -/

/-- The event is that of a missing step, and the advice gives its line, the keyword that governs it
and the text of the step. -/
def AdvisesMissing (lines : List Line) (e : Event) (a : Advice) : Prop :=
  ∃ i line w t k, lines[i]? = some line ∧ line.token = .step w t ∧
    Governs (lines.map Line.token) i k ∧ e = .step line (.missing k) ∧
    a = .missingStep line.number k t

/-- The event is that of a step without assertions, and the advice gives its line. -/
def AdvisesSilent (e : Event) (a : Advice) : Prop :=
  ∃ line output, e = .step line (.noAssertions output) ∧ a = .noAssertions line.number

theorem forall₂_filterMap {α β γ : Type} {p : α → Bool} {f : α → Option β} {g : β → γ}
    {Rel : α → γ → Prop} {as : List α}
    (h : ∀ a ∈ as, if p a = true then ∃ b, f a = some b ∧ Rel a (g b) else f a = none) :
    List.Forall₂ Rel (as.filter p) ((as.filterMap f).map g) := by
  induction as with
  | nil => exact .nil
  | cons a as ih =>
    obtain ⟨ha, has⟩ := List.forall_mem_cons.mp h
    cases hp : p a with
    | true =>
      rw [if_pos hp] at ha
      obtain ⟨b, hb, hrel⟩ := ha
      rw [List.filter_cons_of_pos hp, List.filterMap_cons_some hb]
      exact .cons hrel (ih has)
    | false =>
      have hp' : ¬ p a = true := Bool.eq_false_iff.mp hp
      rw [if_neg hp'] at ha
      rw [List.filter_cons_of_neg hp', List.filterMap_cons_none ha]
      exact ih has

/-- The advice that a log gives on the missing steps among some events. -/
def missingAdvice (events : List Event) : List Advice :=
  (events.filterMap AdviceLog.missingNote?).map fun n =>
    .missingStep n.lineNumber n.keyword n.text

/-- The advice that a log gives on the steps without assertions among some events. -/
def silentAdvice (events : List Event) : List Advice :=
  (events.filterMap AdviceLog.unasserted?).map .noAssertions

section

variable {E : Executor σ}

theorem missing_advised (hE : E.Classifies) (x : σ) (text source : String) :
    let events := (interpret E Recording.report x {} text source).2.reporter.events
    List.Forall₂ (AdvisesMissing (scriptLines text source)) (events.filter Event.isMissing)
      (missingAdvice events) := by
  intro events
  refine forall₂_filterMap fun e he => ?_
  cases e with
  | step line result =>
    cases result with
    | missing k =>
      obtain ⟨i, w, t, k', y, hline, ht, hgoverns, hy⟩ := reported_step he
      cases hE.missing hy
      refine ⟨⟨line.number, k, t⟩, by simp only [AdviceLog.missingNote?, ht], ?_⟩
      exact ⟨i, line, w, t, k, hline, ht, hgoverns, rfl, rfl⟩
    | _ => rfl
  | _ => rfl

/-- A line that `Then` governs is a `Then` or a conjunction. -/
theorem shouldAssert_of_governs {lines : List Line} {i : Nat} {line : Line} {w : Keyword}
    {t : String} (hline : lines[i]? = some line) (ht : line.token = .step w t)
    (h : Governs (lines.map Line.token) i .then) : AdviceLog.shouldAssert line = true := by
  have htoken : (lines.map Line.token)[i]? = some (.step w t) := by
    rw [List.getElem?_map, hline, Option.map_some, ht]
  unfold AdviceLog.shouldAssert
  rw [ht]
  cases hw : w.isConjunction with
  | true => cases w <;> first | rfl | cases hw
  | false =>
    have hthen : w = .then := (governs_of_written ⟨hw, t, htoken⟩).mp h
    rw [hthen]

theorem silent_advised (hE : E.Classifies) (x : σ) (text source : String) :
    let events := (interpret E Recording.report x {} text source).2.reporter.events
    List.Forall₂ AdvisesSilent (events.filter Event.isSilent) (silentAdvice events) := by
  intro events
  refine forall₂_filterMap fun e he => ?_
  cases e with
  | step line result =>
    cases result with
    | noAssertions output =>
      obtain ⟨i, w, t, k, y, hline, ht, hgoverns, hy⟩ := reported_step he
      cases hE.silent hy
      have hassert := shouldAssert_of_governs hline ht hgoverns
      refine ⟨line.number, by simp only [AdviceLog.unasserted?, hassert, if_true], ?_⟩
      exact ⟨line, output, rfl, rfl⟩
    | _ => rfl
  | _ => rfl

end

/-! ## Whole files -/

/-- There is no event of a scenario exactly if no line opens one. -/
theorem countP_isScenario_eq_zero {lines : List Line} {events : List Event}
    (h : List.Forall₂ Tells lines events) :
    events.countP Event.isScenario = 0 ↔ lines.any (·.token.isScenario) = false := by
  induction h with
  | nil => simp
  | cons hline _ ih => simp [List.countP_cons, hline.isScenario, ← ih, and_comm]

/-- The advice on a run that told these events. -/
def adviceOn (events : List Event) : List Advice :=
  (if events.countP Event.isScenario = 0 then [.noScenarios] else []) ++ missingAdvice events ++
    silentAdvice events

theorem AdviceLog.advice_reportAll (R : Reporter ρ) (r : ρ) (events : List Event) :
    ((AdviceLog.report R).reportAll { inner := r } events).advice = adviceOn events := by
  rw [AdviceLog.reportAll_eq, Tally.reportAll_eq]
  simp [AdviceLog.advice, adviceOn, missingAdvice, silentAdvice]

theorem adviceOn_of_tells {lines : List Line} {events : List Event}
    (h : List.Forall₂ Tells lines events) :
    adviceOn events = (if lines.any (·.token.isScenario) then [] else [.noScenarios]) ++
      missingAdvice events ++ silentAdvice events := by
  unfold adviceOn
  cases hany : lines.any (·.token.isScenario) with
  | false => rw [if_pos ((countP_isScenario_eq_zero h).mpr hany)]; rfl
  | true =>
    rw [if_neg fun hzero => ?_]
    · rfl
    · rw [(countP_isScenario_eq_zero h).mp hzero] at hany
      cases hany

/-- Running the text of a file: its events, and after a run that ends well the advice. -/
theorem runText_eq (R : Reporter ρ) (path text : String) (live : LiveExecutor)
    (given : List Advice) (r : ρ) :
    let run := interpret live.executor Recording.report live.state {} text path
    let events := run.2.reporter.events
    runText R path text live given r =
      match run.1 with
      | .error e => (.error (.script e), R.reportAll r events)
      | .ok () => (.ok (Tally.report.reportAll {} events),
          R.reportAll r
            (events ++ (given ++ adviceOn events).map fun a => .advice path a.message)) := by
  intro run events
  have hrun := interpret_reportAll live.executor (AdviceLog.report R) live.state { inner := r }
    text path
  unfold runText
  rw [hrun]
  cases houtcome : run.1 with
  | error e =>
    simp only [Stage.map, AdviceLog.reportAll_eq]
    rfl
  | ok u =>
    simp only [Stage.map, reportAdvice, AdviceLog.advice_reportAll]
    rw [AdviceLog.reportAll_eq]
    simp only [Reporter.reportAll, List.foldl_append]
    rfl

/-- A file that is run well has a helper and a text, and its executor is the one of its provider, or
the null executor with the advice on how to register a provider. -/
theorem runFeature_of_ok {fs : FileSystem} {catalog : Catalog} {R : Reporter ρ} {path : String}
    {r : ρ} {tally : Tally} (h : (runFeature fs catalog R path r).1 = .ok tally) :
    ∃ helper text live, helperName? path = some helper ∧ fs.readText path = .ok text ∧
      (catalog.instantiate helper).getD (.ok .null) = .ok live ∧
      runFeature fs catalog R path r = runText R path text live
        (if catalog.contains helper then []
          else [.noProvider helper (helperTypeName helper) path]) r := by
  unfold runFeature at h ⊢
  cases hhelper : helperName? path with
  | none => simp only [hhelper] at h; cases h
  | some helper =>
    simp only [hhelper] at h ⊢
    cases htext : fs.readText path with
    | error e => simp only [htext] at h; cases h
    | ok text =>
      simp only [htext, executorFor, Catalog.contains] at h ⊢
      cases hentry : catalog.instantiate helper with
      | none => exact ⟨helper, text, .null, rfl, rfl, by rw [hentry]; rfl, by simp [hentry]⟩
      | some entry =>
        cases entry with
        | ok live => exact ⟨helper, text, live, rfl, rfl, by rw [hentry]; rfl, by simp [hentry]⟩
        | error e => simp only [hentry] at h; cases h

/-- What a file that is run well reports: its lines one by one, and then the advice on them. The
advice is given in this order: that there is no provider, exactly if none is registered for the
helper; that there is no scenario, exactly if no line opens one; each missing step, with its line,
the keyword that governs it and its text; each step without assertions, with its line. No step is
passed over: there are as many of either as the tally counts. -/
theorem runFeature_reports (fs : FileSystem) (catalog : Catalog) (R : Reporter ρ) (r : ρ)
    (hcatalog : ∀ helper live, catalog.instantiate helper = some (.ok live) → live.Provided)
    {path : String} {tally : Tally} (h : (runFeature fs catalog R path r).1 = .ok tally) :
    ∃ helper text live missing silent,
      helperName? path = some helper ∧ fs.readText path = .ok text ∧
      (catalog.instantiate helper).getD (.ok .null) = .ok live ∧
      let lines := scriptLines text path
      let run := interpret live.executor Recording.report live.state {} text path
      let events := run.2.reporter.events
      let advice := (if catalog.contains helper then []
          else [.noProvider helper (helperTypeName helper) path]) ++
        (if lines.any (·.token.isScenario) then [] else [.noScenarios]) ++ missing ++ silent
      run.1 = .ok () ∧
      (runFeature fs catalog R path r).2 =
        R.reportAll r (events ++ advice.map fun a => .advice path a.message) ∧
      List.Forall₂ Tells lines events ∧ (∀ line ∈ lines, line.source = path) ∧
      List.Forall₂ (AdvisesMissing lines) (events.filter Event.isMissing) missing ∧
      List.Forall₂ AdvisesSilent (events.filter Event.isSilent) silent ∧
      missing.length = tally.missing ∧ silent.length = tally.noAssertions := by
  obtain ⟨helper, text, live, hhelper, htext, hlive, hrun⟩ := runFeature_of_ok h
  have hE : live.executor.Classifies := by
    cases hentry : catalog.instantiate helper with
    | none => rw [hentry] at hlive; cases hlive; exact Executor.null_classifies
    | some entry =>
      rw [hentry] at hlive
      exact (hcatalog helper live (hentry.trans (congrArg some hlive))).classifies
  rw [runText_eq] at hrun
  cases houtcome : (interpret live.executor Recording.report live.state {} text path).1 with
  | error e =>
    rw [hrun, houtcome] at h
    cases h
  | ok u =>
    have htells := tells_of_ok houtcome
    have hsource : ∀ line ∈ scriptLines text path, line.source = path := fun line hline => by
      obtain ⟨i, hi⟩ := List.getElem?_of_mem hline
      exact (scriptLines_getElem hi).2.1
    have hmissing := missing_advised hE live.state text path
    have hsilent := silent_advised hE live.state text path
    rw [houtcome, adviceOn_of_tells htells, ← List.append_assoc, ← List.append_assoc] at hrun
    rw [hrun, Tally.reportAll_eq] at h
    cases h
    refine ⟨helper, text, live, _, _, hhelper, htext, hlive, houtcome, by rw [hrun], htells,
      hsource, hmissing, hsilent, ?_, ?_⟩
    · rw [← hmissing.length_eq, ← List.countP_eq_length_filter]
      exact (Nat.zero_add _).symm
    · rw [← hsilent.length_eq, ← List.countP_eq_length_filter]
      exact (Nat.zero_add _).symm

/-- Every path is that of a file with this text. -/
def FileSystem.everywhere (text : String) : FileSystem where
  kind _ := .ok .file
  targetKind _ := .ok .file
  entries _ := .error .notDirectory
  readText _ := .ok text

/-- A file with one step, whose helper has no definitions: the step is missing and advised. -/
theorem runFeature_reports_demo :
    (runFeature (.everywhere "Given a") ⟨[("demo", .ok .null)]⟩ Recording.report
      "demo.feature" {}).1 = .ok { missing := 1 } ∧
    ∃ (text : String) (events : List Event) (missing : List Advice),
      (FileSystem.everywhere "Given a").readText "demo.feature" = .ok text ∧
      List.Forall₂ Tells (scriptLines text "demo.feature") events ∧
      List.Forall₂ (AdvisesMissing (scriptLines text "demo.feature"))
        (events.filter Event.isMissing) missing ∧
      missing.length = 1 := by
  have hcatalog : ∀ helper live,
      Catalog.instantiate ⟨[("demo", .ok .null)]⟩ helper = some (.ok live) → live.Provided := by
    intro helper live hlive
    rw [Catalog.instantiate, List.lookup_cons] at hlive
    cases hdemo : helper == "demo" with
    | true => rw [hdemo] at hlive; cases hlive; exact .null
    | false => rw [hdemo] at hlive; cases hlive
  have htally : (runFeature (.everywhere "Given a") ⟨[("demo", .ok .null)]⟩ Recording.report
      "demo.feature" {}).1 = .ok { missing := 1 } := rfl
  obtain ⟨helper, text, live, missing, silent, -, htext, -, -, -, htells, -, hmissing, -, hlength,
    -⟩ := runFeature_reports _ _ Recording.report {} hcatalog htally
  exact ⟨htally, text, _, missing, htext, htells, hmissing, hlength⟩

end FeatureScript
