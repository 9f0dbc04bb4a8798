import FeatureScript.Proofs.Run.Composition

/-!
# FeatureScript.Proofs.Run.DryRun

Running a directory without definitions.

The executor without definitions opens and closes every scenario and finds no step, and so does that
of a provider whose registry is empty (`interpret_bare`). So each step line that is reached is
missing under the keyword that governs it, and only a conjunction that continues nothing stops a
script. `dry_run`: this is what an empty catalog does with a directory, and a catalog with empty
providers does the same, but for the advice on how to register one.
-/

namespace FeatureScript

variable {ρ W : Type} {fs : FileSystem} {catalog : Catalog} {dir path helper text source : String}
  {paths : List String}

/-! ## The executor without definitions -/

/-- The provider without definitions, whose hooks do nothing. -/
def Provider.bare : Provider W where
  registry := .empty

theorem Provider.bare_projects : (bare : Provider W).executor.Projects .null fun _ => () :=
  ⟨fun _ => rfl, fun _ => rfl, fun _ _ _ => rfl⟩

/-- A provider without definitions runs a script as the executor without definitions does. -/
theorem interpret_bare (R : Reporter ρ) (world : W) (r : ρ) (text source : String) :
    let run := interpret Provider.bare.executor R world r text source
    interpret Executor.null R () r text source = (run.1, run.2.map (fun _ => ()) id) :=
  interpret_map Provider.bare_projects (.refl R) world r text source

theorem Executor.null_serves {x y : Unit} {calls : List Call} (h : Executor.null.Serves x calls y) :
    ∀ c ∈ calls, c.error? = none := by
  induction h with
  | done => simp
  | setUp _ ih => exact List.forall_mem_cons.mpr ⟨rfl, ih⟩
  | tearDown _ ih => exact List.forall_mem_cons.mpr ⟨rfl, ih⟩
  | execute _ ih => exact List.forall_mem_cons.mpr ⟨rfl, ih⟩

/-- Without definitions, a script is stopped by a dangling conjunction only. -/
theorem dangling_of_null {err : InterpretError}
    (h : (interpret Executor.null Recording.report () {} text source).1 = .error err) :
    ∃ k line, err = .danglingConjunction k line := by
  rw [interpret_logged Executor.null Recording.report { state := () }] at h
  let start : Stage (Logged Unit) Recording := { executor := { state := () }, reporter := {} }
  cases hrun : start.interpret Executor.null.logged Recording.report text source with
  | mk outcome s' =>
    obtain ⟨calls, hcalls, hans, -⟩ := Stage.interpret_spec hrun
    obtain rfl : outcome = .error err := (congrArg Prod.fst hrun).symm.trans h
    cases err with
    | danglingConjunction k line => exact ⟨k, line, rfl⟩
    | lifecycle source number cause =>
      obtain ⟨before, last, rest, rfl, hlast, -, -⟩ := hans.account
      rw [Executor.null_serves hcalls.served last (by simp)] at hlast
      cases hlast

/-- `line` is the step at line `i`, and `k` is the keyword that governs it. -/
structure GovernedStep (lines : List Line) (i : Nat) (line : Line) (k : Keyword) : Prop where
  at_line : lines[i]? = some line
  is_step : line.token.isStep = true
  governs : Governs (lines.map Line.token) i k

theorem null_step {line : Line} {result : StepResult} (h : .step line result ∈
      (interpret Executor.null Recording.report () {} text source).2.reporter.events) :
    ∃ i k, GovernedStep (scriptLines text source) i line k ∧ result = .missing k := by
  obtain ⟨i, w, t, k, y, hline, ht, hgoverns, hresult⟩ := reported_step h
  exact ⟨i, k, ⟨hline, by rw [ht]; rfl, hgoverns⟩, hresult.symm⟩

theorem null_misses {i : Nat} {line : Line} (hline : (scriptLines text source)[i]? = some line)
    (hstep : line.token.isStep = true)
    (h : ∀ err, (interpret Executor.null Recording.report () {} text source).1 = .error err →
      line.number < err.number) :
    ∃ k, GovernedStep (scriptLines text source) i line k ∧ .step line (.missing k) ∈
      (interpret Executor.null Recording.report () {} text source).2.reporter.events := by
  obtain ⟨e, he, htells⟩ := told_line hline h
  obtain ⟨result, rfl⟩ : ∃ result, e = .step line result := by
    rcases htells.cases with ⟨_, ht, -⟩ | ⟨_, ht, -⟩ | ⟨_, _, result, -, rfl⟩ | ⟨ht, -⟩
    · rw [ht] at hstep; cases hstep
    · rw [ht] at hstep; cases hstep
    · exact ⟨result, rfl⟩
    · rw [ht] at hstep; cases hstep
  obtain ⟨j, k, hgoverned, rfl⟩ := null_step he
  have hj : j = i := by
    have hi := (scriptLines_getElem hline).1
    have hj := (scriptLines_getElem hgoverned.at_line).1
    omega
  rw [hj] at hgoverned
  exact ⟨k, hgoverned, he⟩

/-! ## Files -/

/-- A file with a text is run as its text is: it tells its lines, and behind them the advice if the
script was run to its end. -/
theorem runFeature_recorded {live : LiveExecutor} {given : List Advice}
    (hhelper : helperName? path = some helper) (htext : fs.readText path = .ok text)
    (hlive : executorFor catalog helper path = .ok (live, given)) :
    let run := interpret live.executor Recording.report live.state {} text path
    let events := run.2.reporter.events
    outcomeOf fs catalog path = (match run.1 with
      | .ok () => .ok (Tally.report.reportAll {} events)
      | .error e => .error (.script e)) ∧
    toldOf fs catalog path = events ++ (match run.1 with
      | .ok () => (given ++ adviceOn events).map fun a => .advice path a.message
      | .error _ => []) := by
  intro run events
  have hfile : runFeature fs catalog Recording.report path {} =
      runText Recording.report path text live given {} := by
    simp only [runFeature, hhelper, htext, hlive]
  rw [outcomeOf, toldOf, hfile, runText_eq]
  cases run.1 with
  | ok u => simp [run, events, Recording.reportAll_eq]
  | error e => simp [run, events, Recording.reportAll_eq]

/-- A file without a text, or with a name that is none of a feature file, is not run as a script. -/
theorem runFeature_unread
    (h : ¬ ∃ helper text, helperName? path = some helper ∧ fs.readText path = .ok text) :
    toldOf fs catalog path = [] ∧ (∀ tally, outcomeOf fs catalog path ≠ .ok tally) ∧
      (∀ cause, outcomeOf fs catalog path ≠ .error (.script cause)) ∧
      outcomeOf fs catalog path = outcomeOf fs .empty path := by
  unfold toldOf outcomeOf runFeature
  cases hhelper : helperName? path with
  | none => simp
  | some helper =>
    cases htext : fs.readText path with
    | error e => simp
    | ok text => exact absurd ⟨helper, text, hhelper, htext⟩ h

/-- The advice on a provider that is missing. -/
def providerAdvice (helper path : String) : Advice := .noProvider helper (helperTypeName helper) path

theorem executorFor_empty (helper path : String) :
    executorFor .empty helper path = .ok (.null, [providerAdvice helper path]) := rfl

theorem toldOf_empty_step {line : Line} {result : StepResult}
    (h : .step line result ∈ toldOf fs .empty path) :
    ∃ text i k, fs.readText path = .ok text ∧ GovernedStep (scriptLines text path) i line k ∧
      result = .missing k := by
  by_cases hread : ∃ helper text, helperName? path = some helper ∧ fs.readText path = .ok text
  · obtain ⟨helper, text, hhelper, htext⟩ := hread
    rw [(runFeature_recorded hhelper htext (executorFor_empty helper path)).2] at h
    rcases List.mem_append.mp h with h | h
    · obtain ⟨i, k, hgoverned, hresult⟩ := null_step h
      exact ⟨text, i, k, htext, hgoverned, hresult⟩
    · split at h
      · simp at h
      · cases h
  · rw [(runFeature_unread hread).1] at h
    cases h

theorem outcomeOf_empty_script {cause : InterpretError}
    (h : outcomeOf fs .empty path = .error (.script cause)) :
    ∃ k line, cause = .danglingConjunction k line := by
  by_cases hread : ∃ helper text, helperName? path = some helper ∧ fs.readText path = .ok text
  · obtain ⟨helper, text, hhelper, htext⟩ := hread
    rw [(runFeature_recorded hhelper htext (executorFor_empty helper path)).1] at h
    split at h
    · cases h
    · rename_i hrun
      cases h
      exact dangling_of_null hrun
  · exact absurd h ((runFeature_unread hread).2.2.1 cause)

theorem toldOf_empty_misses {i : Nat} {line : Line} (hhelper : helperName? path = some helper)
    (htext : fs.readText path = .ok text) (hline : (scriptLines text path)[i]? = some line)
    (hstep : line.token.isStep = true)
    (h : ∀ w l, outcomeOf fs .empty path = .error (.script (.danglingConjunction w l)) →
      line.number < l.number) :
    ∃ k, GovernedStep (scriptLines text path) i line k ∧
      .step line (.missing k) ∈ toldOf fs .empty path := by
  obtain ⟨houtcome, htold⟩ := runFeature_recorded hhelper htext (executorFor_empty helper path)
  obtain ⟨k, hgoverned, hmissing⟩ := null_misses hline hstep fun err herr => by
    obtain ⟨w, l, rfl⟩ := dangling_of_null herr
    refine h w l (houtcome.trans ?_)
    simp only [LiveExecutor.null, herr]
  refine ⟨k, hgoverned, ?_⟩
  rw [htold]
  exact List.mem_append_left _ hmissing

/-- What a catalog tells of a file is what an empty one does, but for the advice on the missing
provider, which the empty one gives first, if it comes to advice at all. -/
def Unprovided (fs : FileSystem) (catalog : Catalog) (path : String) : Prop :=
  match outcomeOf fs .empty path with
  | .ok _ => ∃ helper lines advice, helperName? path = some helper ∧
      (∀ e ∈ lines, e.line?.isSome = true) ∧ (∀ e ∈ advice, e.line? = none) ∧
      toldOf fs .empty path =
        lines ++ .advice path (providerAdvice helper path).message :: advice ∧
      toldOf fs catalog path = lines ++ advice
  | .error _ => toldOf fs catalog path = toldOf fs .empty path

/-- A provider without definitions does with a file what is done without a provider. -/
theorem unprovided_of_instantiate (hhelper : helperName? path = some helper) {world : W}
    (hentry : catalog.instantiate helper =
      some (.ok (.ofProvider .bare world))) :
    outcomeOf fs catalog path = outcomeOf fs .empty path ∧ Unprovided fs catalog path := by
  unfold Unprovided
  by_cases hread : ∃ helper text, helperName? path = some helper ∧ fs.readText path = .ok text
  · obtain ⟨-, text, -, htext⟩ := hread
    obtain ⟨houtcome, htold⟩ := runFeature_recorded hhelper htext
      (executorFor_empty helper path)
    have hexecutor : executorFor catalog helper path =
        .ok (.ofProvider .bare world, []) := by
      rw [executorFor, hentry]
    obtain ⟨houtcome', htold'⟩ := runFeature_recorded hhelper htext hexecutor
    have hrun := interpret_bare Recording.report world {} text path
    have hlines : ∀ e ∈ (interpret Executor.null Recording.report () {} text
        path).2.reporter.events, e.line?.isSome = true := by
      intro e he
      obtain ⟨line, -, htells⟩ := interpret_tells e he
      rw [htells.line?]
      rfl
    simp only [LiveExecutor.null, LiveExecutor.ofProvider] at houtcome htold houtcome' htold'
    rw [hrun] at houtcome htold hlines
    rw [houtcome, houtcome', htold, htold']
    refine ⟨rfl, ?_⟩
    dsimp only
    cases (interpret Provider.bare.executor Recording.report world {} text path).1 with
    | error e => rfl
    | ok u => exact ⟨helper, _, _, hhelper, hlines, by simp [Event.line?], rfl, rfl⟩
  · obtain ⟨htold, hok, -, houtcome⟩ := @runFeature_unread fs catalog path hread
    refine ⟨houtcome, ?_⟩
    rw [← houtcome]
    cases hpath : outcomeOf fs catalog path with
    | ok tally => exact absurd hpath (hok tally)
    | error e => exact htold.trans (runFeature_unread hread).1.symm

/-! ## Directories -/

theorem discover_cases (fs : FileSystem) (dir : String) :
    (∃ path cause, discover fs dir = .error (.unlisted path cause)) ∨ discover fs dir = .ok [] ∨
      ∃ entries, fs.entries dir = .ok entries ∧ discover fs dir = .ok (featurePaths dir entries) := by
  unfold discover
  cases fs.kind dir with
  | error e => exact .inl ⟨dir, e, rfl⟩
  | ok kind =>
    cases fs.targetKind dir with
    | error e => exact .inl ⟨dir, e, rfl⟩
    | ok target =>
      cases target with
      | directory =>
        cases fs.entries dir with
        | error e => exact .inl ⟨dir, e, rfl⟩
        | ok entries => exact .inr (.inr ⟨entries, rfl, rfl⟩)
      | file => exact .inr (.inl rfl)
      | link => exact .inr (.inl rfl)

theorem helperName_of_featurePath {name : FileName} (h : featurePath? dir name = some path) :
    ∃ helper, helperName? path = some helper := by
  unfold featurePath? at h
  cases htext : name.text? with
  | none => rw [htext] at h; cases h
  | some text =>
    rw [htext] at h
    obtain ⟨hsome, hpath⟩ := Option.ite_none_right_eq_some.mp h
    cases hpath
    exact Option.isSome_iff_exists.mp hsome

/-- What is found is a feature file by its name. -/
theorem helperName_of_found (h : discover fs dir = .ok paths) (hpath : path ∈ paths) :
    ∃ helper, helperName? path = some helper := by
  rcases discover_cases fs dir with ⟨_, _, hfound⟩ | hfound | ⟨entries, -, hfound⟩
  · rw [hfound] at h; cases h
  · rw [hfound] at h; cases h; cases hpath
  · rw [hfound] at h
    cases h
    obtain ⟨name, -, hname⟩ := List.mem_filterMap.mp hpath
    exact helperName_of_featurePath hname

theorem files_of_ran (h : Ran fs dir paths) (hfiles : paths ≠ []) :
    fs.isDirectory dir = true ∧ discover fs dir = .ok paths := by
  unfold Ran at h
  split at h
  · rename_i hdir
    exact ⟨hdir, h⟩
  · exact absurd h hfiles

/-- Where no file is run, the catalog does not matter. -/
theorem runDirectory_without_files (h : ∀ paths, Ran fs dir paths → paths = []) :
    ∃ outcome notes, (∀ catalog, Told (fun _ R => runDirectory fs catalog R dir) outcome notes) ∧
      (∀ e ∈ notes, e.line? = none) ∧ ∀ cause, outcome ≠ .error (.script cause) := by
  unfold Ran at h
  unfold runDirectory
  cases hdir : fs.isDirectory dir with
  | false =>
    exact ⟨_, _, fun _ => .advice dir _ [.missingFeaturesDir dir], by simp [Event.line?], by simp⟩
  | true =>
    rw [hdir] at h
    cases hfound : discover fs dir with
    | error e =>
      have hlisted : ∀ cause, e ≠ .script cause := by
        rintro cause rfl
        rcases discover_cases fs dir with ⟨_, _, h⟩ | h | ⟨_, -, h⟩ <;> rw [hfound] at h <;> cases h
      exact ⟨_, _, fun _ => .nothing _, by simp, by simpa using hlisted⟩
    | ok paths =>
      obtain rfl := h paths hfound
      exact ⟨_, _, fun _ => .advice dir _ [.noFeatures dir], by simp [Event.line?], by simp⟩

theorem mem_of_reached (h : path ∈ reachedFiles fs catalog paths) : path ∈ paths := by
  induction paths with
  | nil => cases h
  | cons first rest ih =>
    unfold reachedFiles at h
    split at h
    · rcases List.mem_cons.mp h with rfl | h
      · exact List.mem_cons_self
      · exact List.mem_cons_of_mem _ (ih h)
    · rw [List.mem_singleton.mp h]
      exact List.mem_cons_self

section

variable {catalog' : Catalog}

theorem reachedFiles_congr
    (h : ∀ path ∈ paths, outcomeOf fs catalog path = outcomeOf fs catalog' path) :
    reachedFiles fs catalog paths = reachedFiles fs catalog' paths := by
  induction paths with
  | nil => rfl
  | cons path rest ih =>
    obtain ⟨hpath, hrest⟩ := List.forall_mem_cons.mp h
    simp only [reachedFiles, hpath, ih hrest]

theorem runFeatures_congr
    (h : ∀ path ∈ paths, outcomeOf fs catalog path = outcomeOf fs catalog' path)
    (summary : RunSummary) (R : Reporter ρ) (r r' : ρ) :
    (runFeatures fs catalog R summary paths r).1 = (runFeatures fs catalog' R summary paths r').1 := by
  induction paths generalizing summary r r' with
  | nil => rfl
  | cons path rest ih =>
    obtain ⟨hpath, hrest⟩ := List.forall_mem_cons.mp h
    simp only [runFeatures, (runFeature_told_alone fs _ path).run_eq, hpath]
    cases outcomeOf fs catalog' path with
    | error e => rfl
    | ok tally => exact ih hrest _ _ _

end

/-! ## Dry runs -/

/-- Either there are files to run, or the catalog does not matter. -/
theorem exists_files_or (fs : FileSystem) (dir : String) :
    (∃ paths, Ran fs dir paths ∧ paths ≠ []) ∨ ∀ paths, Ran fs dir paths → paths = [] := by
  by_cases h : ∃ paths, Ran fs dir paths ∧ paths ≠ []
  · exact .inl h
  · exact .inr fun paths hran => by_contra fun hfiles => h ⟨paths, hran, hfiles⟩

theorem dryRun_step {line : Line} {result : StepResult}
    (h : .step line result ∈ (runDirectory fs .empty Recording.report dir {}).2.events) :
    ∃ path text i k, fs.readText path = .ok text ∧
      GovernedStep (scriptLines text path) i line k ∧ result = .missing k := by
  rcases exists_files_or fs dir with ⟨paths, hran, hfiles⟩ | hnone
  · obtain ⟨hdir, hfound⟩ := files_of_ran hran hfiles
    obtain ⟨outcome, htold, -⟩ := runDirectory_told_files .empty hdir hfound hfiles
    rw [htold.recording] at h
    obtain ⟨path, -, hpath⟩ := List.mem_flatMap.mp h
    exact ⟨path, toldOf_empty_step hpath⟩
  · obtain ⟨outcome, notes, htold, hnotes, -⟩ := runDirectory_without_files hnone
    rw [(htold .empty).recording] at h
    cases hnotes _ h

theorem dryRun_misses {i : Nat} {line : Line} (hran : Ran fs dir paths)
    (hpath : path ∈ reachedFiles fs .empty paths) (htext : fs.readText path = .ok text)
    (hline : (scriptLines text path)[i]? = some line) (hstep : line.token.isStep = true)
    (h : ∀ w l, outcomeOf fs .empty path = .error (.script (.danglingConjunction w l)) →
      line.number < l.number) :
    ∃ k, GovernedStep (scriptLines text path) i line k ∧
      .step line (.missing k) ∈ (runDirectory fs .empty Recording.report dir {}).2.events := by
  have hmem := mem_of_reached hpath
  obtain ⟨hdir, hfound⟩ := files_of_ran hran (List.ne_nil_of_mem hmem)
  obtain ⟨helper, hhelper⟩ := helperName_of_found hfound hmem
  obtain ⟨k, hgoverned, htold⟩ := toldOf_empty_misses hhelper htext hline hstep h
  exact ⟨k, hgoverned, (mem_told_of_reached hdir hfound hpath (toldOf_source fs .empty path _ htold)).mpr
    htold⟩

theorem dryRun_script {cause : InterpretError}
    (h : (runDirectory fs .empty Recording.report dir {}).1 = .error (.script cause)) :
    ∃ k line, cause = .danglingConjunction k line := by
  rcases exists_files_or fs dir with ⟨paths, hran, hfiles⟩ | hnone
  · obtain ⟨hdir, hfound⟩ := files_of_ran hran hfiles
    obtain ⟨outcome, htold, hends⟩ := runDirectory_told_files .empty hdir hfound hfiles
    rw [htold.recording] at h
    rcases hends with ⟨total, rfl, -⟩ | ⟨before, path, e, rfl, hstops⟩
    · cases h
    · cases h
      exact outcomeOf_empty_script hstops.outcome
  · obtain ⟨outcome, notes, htold, -, hscript⟩ := runDirectory_without_files hnone
    rw [(htold .empty).recording] at h
    exact absurd h (hscript cause)

theorem countP_of_missing {events : List Event}
    (h : ∀ line result, .step line result ∈ events → ∃ k, result = .missing k) :
    events.countP Event.isPassed = 0 ∧ events.countP Event.isFailed = 0 ∧
      events.countP Event.isSilent = 0 := by
  have hresult : ∀ e ∈ events, ∀ result, e.result? = some result → ∃ k, result = .missing k := by
    intro e he result hresult
    cases e with
    | step line result' => cases hresult; exact h line result he
    | _ => cases hresult
  simp only [List.countP_eq_zero, Event.isPassed, Event.isFailed, Event.isSilent]
  refine ⟨fun e he => ?_, fun e he => ?_, fun e he => ?_⟩ <;>
    cases hr : e.result? with
    | none => simp
    | some result => obtain ⟨k, rfl⟩ := hresult e he result hr; simp

/-- A dry run that ends well: every file is run, and every step line counts as missing. -/
theorem dryRun_counts {summary : RunSummary}
    (h : (runDirectory fs .empty Recording.report dir {}).1 = .ok summary) :
    ∃ files : List FileRun, Ran fs dir (files.map FileRun.path) ∧
      (∀ f ∈ files, fs.readText f.path = .ok f.text ∧ RunsWell fs .empty f.path) ∧
      summary.isSuccess = true ∧
      summary.tally =
        { scenarios := (files.map fun f => f.lines.countP fun line => line.token.isScenario).sum
          missing := (files.map fun f => f.lines.countP fun line => line.token.isStep).sum } := by
  obtain ⟨outcome, events, htold⟩ := runDirectory_told fs .empty dir
  have hrun := htold.recording
  rw [hrun] at h
  cases h
  obtain ⟨files, hran, hfiles, -, hsum, hevents⟩ := runDirectory_counts htold
  have hmissing : ∀ line result, .step line result ∈ events → ∃ k, result = .missing k := by
    intro line result he
    obtain ⟨-, -, -, k, -, -, hresult⟩ := @dryRun_step fs dir _ _ (by rw [hrun]; exact he)
    exact ⟨k, hresult⟩
  obtain ⟨hpassed, hfailed, hsilent⟩ := countP_of_missing hmissing
  rw [Tally.reportAll_eq] at hevents
  obtain ⟨hscenarios, hsteps⟩ := FileRun.sum_counted fun f hf => (hfiles f hf).2
  rw [← hsum] at hscenarios hsteps
  refine ⟨files, hran, fun f hf => ⟨(hfiles f hf).1.readText, f.tally, ?_⟩, ?_, ?_⟩
  · exact (hfiles f hf).1.outcome _ _ _
  · simp [RunSummary.isSuccess, Tally.hasFailures, hevents, hfailed]
  · rw [← hscenarios, ← hsteps, hevents]
    simp [Tally.steps, hpassed, hfailed, hsilent]

/-- Providers without definitions make the same run as none at all. -/
theorem dryRun_bare (hentries : ∀ paths path helper, Ran fs dir paths → path ∈ paths →
      helperName? path = some helper → ∃ (W : Type) (world : W),
        catalog.instantiate helper = some (.ok (.ofProvider .bare world))) :
    let run := runDirectory fs .empty Recording.report dir {}
    let run' := runDirectory fs catalog Recording.report dir {}
    run'.1 = run.1 ∧
    ((∀ paths, Ran fs dir paths → paths = []) → run'.2.events = run.2.events) ∧
    ∀ paths, Ran fs dir paths → paths ≠ [] →
      let reached := reachedFiles fs .empty paths
      run.2.events = reached.flatMap (toldOf fs .empty) ∧
      run'.2.events = reached.flatMap (toldOf fs catalog) ∧
      ∀ path ∈ reached, Unprovided fs catalog path := by
  intro run run'
  rcases exists_files_or fs dir with ⟨paths, hran, hfiles⟩ | hnone
  · obtain ⟨hdir, hfound⟩ := files_of_ran hran hfiles
    have hsame : ∀ path ∈ paths,
        outcomeOf fs catalog path = outcomeOf fs .empty path ∧ Unprovided fs catalog path := by
      intro path hpath
      obtain ⟨helper, hhelper⟩ := helperName_of_found hfound hpath
      obtain ⟨W, world, hentry⟩ := hentries paths path helper hran hpath hhelper
      exact unprovided_of_instantiate hhelper hentry
    have houtcomes := fun path hpath => (hsame path hpath).1
    refine ⟨?_, fun h => absurd (h paths hran) hfiles, ?_⟩
    · simp only [run, run', runDirectory_of_files hdir hfound hfiles]
      exact runFeatures_congr houtcomes {} _ _ _
    · intro paths' hran' hfiles' reached
      obtain ⟨-, hfound'⟩ := files_of_ran hran' hfiles'
      obtain rfl : paths = paths' := Except.ok.inj (hfound.symm.trans hfound')
      obtain ⟨_, htold, -⟩ := runDirectory_told_files .empty hdir hfound hfiles
      obtain ⟨_, htold', -⟩ := runDirectory_told_files catalog hdir hfound hfiles
      rw [reachedFiles_congr houtcomes] at htold'
      refine ⟨?_, ?_, fun path hpath => (hsame path (mem_of_reached hpath)).2⟩
      · simp only [run, htold.recording, reached]
      · simp only [run', htold'.recording, reached]
  · obtain ⟨outcome, notes, htold, -⟩ := runDirectory_without_files hnone
    have hrun : run' = run := (htold catalog).recording.trans (htold .empty).recording.symm
    rw [hrun]
    exact ⟨rfl, fun _ => rfl, fun paths hran hfiles => absurd (hnone paths hran) hfiles⟩

/-- A dry run, with an empty catalog. Each step that is told is missing under the keyword that
governs it, and each step line is told of the files that are reached, up to a conjunction that
continues nothing; no other error of a script is possible. If the run ends well, all files were run,
every step counts as missing and none as failed. With a catalog that has a provider without
definitions for each of the files, the run ends the same way and tells the same, but for the advice
on the missing provider at the head of the advice on each file. -/
theorem dry_run (fs : FileSystem) (dir : String) :
    let run (catalog : Catalog) := runDirectory fs catalog Recording.report dir {}
    let told := (run .empty).2.events
    (∀ catalog ρ (R : Reporter ρ) r, runDirectory fs catalog R dir r =
      ((run catalog).1, R.reportAll r (run catalog).2.events)) ∧
    (∀ line result, .step line result ∈ told → ∃ path text i k, fs.readText path = .ok text ∧
      GovernedStep (scriptLines text path) i line k ∧ result = .missing k) ∧
    (∀ paths path text, Ran fs dir paths → path ∈ reachedFiles fs .empty paths →
      fs.readText path = .ok text → ∀ i line, (scriptLines text path)[i]? = some line →
        line.token.isStep = true →
        (∀ w l, outcomeOf fs .empty path = .error (.script (.danglingConjunction w l)) →
          line.number < l.number) →
        ∃ k, GovernedStep (scriptLines text path) i line k ∧ .step line (.missing k) ∈ told) ∧
    (∀ summary, (run .empty).1 = .ok summary → ∃ files : List FileRun,
      Ran fs dir (files.map FileRun.path) ∧
      (∀ f ∈ files, fs.readText f.path = .ok f.text ∧
        ∀ i line, f.lines[i]? = some line → line.token.isStep = true →
          ∃ k, GovernedStep f.lines i line k ∧ .step line (.missing k) ∈ told) ∧
      summary.isSuccess = true ∧
      summary.tally =
        { scenarios := (files.map fun f => f.lines.countP fun line => line.token.isScenario).sum
          missing := (files.map fun f => f.lines.countP fun line => line.token.isStep).sum }) ∧
    (∀ cause, (run .empty).1 = .error (.script cause) →
      ∃ k line, cause = .danglingConjunction k line) ∧
    ∀ catalog : Catalog, (∀ paths path helper, Ran fs dir paths → path ∈ paths →
        helperName? path = some helper → ∃ (W : Type) (world : W),
          catalog.instantiate helper = some (.ok (.ofProvider .bare world))) →
      (run catalog).1 = (run .empty).1 ∧
      ((∀ paths, Ran fs dir paths → paths = []) → (run catalog).2.events = told) ∧
      ∀ paths, Ran fs dir paths → paths ≠ [] →
        let reached := reachedFiles fs .empty paths
        told = reached.flatMap (toldOf fs .empty) ∧
        (run catalog).2.events = reached.flatMap (toldOf fs catalog) ∧
        ∀ path ∈ reached, Unprovided fs catalog path := by
  intro run told
  refine ⟨fun catalog => ?_, fun line result => dryRun_step, ?_, ?_, fun cause => dryRun_script,
    fun catalog hentries => dryRun_bare hentries⟩
  · obtain ⟨outcome, events, htold⟩ := runDirectory_told fs catalog dir
    intro ρ R r
    simp only [run, htold.recording, htold.run_eq]
  · intro paths path text hran hpath htext i line hline hstep h
    exact dryRun_misses hran hpath htext hline hstep h
  · intro summary hsummary
    obtain ⟨files, hran, hfiles, hsuccess, htally⟩ := dryRun_counts hsummary
    refine ⟨files, hran, fun f hf => ⟨(hfiles f hf).1, fun i line hline hstep => ?_⟩, hsuccess, htally⟩
    have hreached : f.path ∈ reachedFiles fs .empty (files.map FileRun.path) := by
      rw [reachedFiles_of_well (List.forall_mem_map.mpr fun f hf => (hfiles f hf).2)]
      exact List.mem_map_of_mem hf
    refine dryRun_misses hran hreached (hfiles f hf).1 hline hstep fun w l herror => ?_
    obtain ⟨tally, hok⟩ := (hfiles f hf).2
    rw [hok] at herror
    cases herror

/-- A provider without definitions for each of two files. -/
theorem dry_run_pair :
    let fs : FileSystem := .pair "Given a\n" "And b\n"
    let bare : LiveExecutor := .ofProvider .bare ()
    let catalog := (Catalog.empty.register "a" (.ok bare)).register "b" (.ok bare)
    let paths := ["features/a.feature", "features/b.feature"]
    Ran fs "features" paths ∧
    (runDirectory fs catalog Recording.report "features" {}).1 =
      (runDirectory fs .empty Recording.report "features" {}).1 ∧
    ∀ path ∈ reachedFiles fs .empty paths, Unprovided fs catalog path := by
  intro fs bare catalog paths
  have hcatalog : catalog = ⟨[("a", .ok bare), ("b", .ok bare)]⟩ := by
    have hlt : ¬ "b" < "a" := by decide +kernel
    have hne : "b" ≠ "a" := by decide
    simp only [catalog, Catalog.register, Catalog.insert, Catalog.empty, if_neg hlt, if_neg hne]
  have hran : Ran fs "features" paths := discover_pair "Given a\n" "And b\n"
  obtain ⟨-, -, -, -, -, hbare⟩ := dry_run fs "features"
  obtain ⟨hsame, -, hpaths⟩ := hbare catalog fun paths' path helper hran' hpath hhelper => by
    obtain rfl : paths = paths' := Except.ok.inj ((files_of_ran hran (by simp [paths])).2.symm.trans
      (files_of_ran hran' (List.ne_nil_of_mem hpath)).2)
    rcases List.mem_cons.mp hpath with rfl | hpath
    · obtain rfl : helper = "a" := Option.some.inj (hhelper.symm.trans (by decide +kernel))
      exact ⟨Unit, (), by rw [hcatalog]; rfl⟩
    · obtain rfl := List.mem_singleton.mp hpath
      obtain rfl : helper = "b" := Option.some.inj (hhelper.symm.trans (by decide +kernel))
      exact ⟨Unit, (), by rw [hcatalog]; rfl⟩
  exact ⟨hran, hsame, (hpaths paths hran (by simp [paths])).2.2⟩

end FeatureScript
