import FeatureScript.Files.Tree
import FeatureScript.Proofs.Run.Advice

/-!
# FeatureScript.Proofs.Run.Failure

What a feature file that fails to run leaves behind.

Before its script is run, the name of a file is checked, the file is read and its provider is built.
`Prepares` says which of these is the first to fail, and with what error. `watchFeature` runs a file
as `runFeature` does and keeps the calls on the executor too (`watchFeature_eq`), so that all is
seen that a run does outside of itself. `failed_run_leaves_reporter`: a file that is not ready
leaves everything as it was, and a script that fails leaves what its lines told, without advice.
-/

namespace FeatureScript

variable {ρ : Type}

/-! ## Files that are ready to run -/

/-- What it takes to run a file: its text, an executor, and the advice that is given before. -/
structure Prepared where
  text : String
  live : LiveExecutor
  advice : List Advice

/-- Checks the name of a file, reads it and builds its provider. -/
def prepare (fs : FileSystem) (catalog : Catalog) (path : String) : Except RunError Prepared :=
  match helperName? path with
  | none => .error (.notFeature path)
  | some helper =>
    match fs.readText path with
    | .error e => .error (.unreadable path e)
    | .ok text =>
      match executorFor catalog helper path with
      | .error e => .error e
      | .ok (live, advice) => .ok ⟨text, live, advice⟩

/-- The file has a text, and its helper has an executor. -/
def Ready (fs : FileSystem) (catalog : Catalog) (path text : String) (live : LiveExecutor) : Prop :=
  ∃ helper, helperName? path = some helper ∧ fs.readText path = .ok text ∧
    (catalog.instantiate helper).getD (.ok .null) = .ok live

/-- What comes of getting a file ready. The constructors stand in the order of the checks. -/
inductive Prepares (fs : FileSystem) (catalog : Catalog) (path : String) :
    Except RunError Prepared → Prop where
  | notFeature : helperName? path = none → Prepares fs catalog path (.error (.notFeature path))
  | unreadable {helper : String} {cause : FileError} : helperName? path = some helper →
      fs.readText path = .error cause → Prepares fs catalog path (.error (.unreadable path cause))
  | definitions {helper text : String} {cause : RegistryError} : helperName? path = some helper →
      fs.readText path = .ok text → catalog.instantiate helper = some (.error cause) →
      Prepares fs catalog path (.error (.definitions helper cause))
  | ready {file : Prepared} : Ready fs catalog path file.text file.live →
      Prepares fs catalog path (.ok file)

theorem prepare_prepares (fs : FileSystem) (catalog : Catalog) (path : String) :
    Prepares fs catalog path (prepare fs catalog path) := by
  unfold prepare
  cases hhelper : helperName? path with
  | none => exact .notFeature hhelper
  | some helper =>
    dsimp only
    cases htext : fs.readText path with
    | error cause => exact .unreadable hhelper htext
    | ok text =>
      dsimp only [executorFor]
      cases hentry : catalog.instantiate helper with
      | none => exact .ready ⟨helper, hhelper, htext, by rw [hentry]; rfl⟩
      | some entry =>
        cases entry with
        | error cause => exact .definitions hhelper htext hentry
        | ok live => exact .ready ⟨helper, hhelper, htext, by rw [hentry]; rfl⟩

/-- A file is run once it is ready. -/
theorem runFeature_eq (fs : FileSystem) (catalog : Catalog) (R : Reporter ρ) (path : String)
    (r : ρ) :
    runFeature fs catalog R path r =
      match prepare fs catalog path with
      | .error e => (.error e, r)
      | .ok file => runText R path file.text file.live file.advice r := by
  unfold runFeature prepare
  cases helperName? path with
  | none => rfl
  | some helper =>
    dsimp only
    cases fs.readText path with
    | error cause => rfl
    | ok text =>
      dsimp only
      cases executorFor catalog helper path <;> rfl

namespace Prepares

variable {fs : FileSystem} {catalog : Catalog} {path : String} {outcome : Except RunError Prepared}

theorem notFeature_iff (h : Prepares fs catalog path outcome) (p : String) :
    outcome = .error (.notFeature p) ↔ p = path ∧ helperName? path = none := by
  cases h with
  | notFeature hhelper => simp [hhelper, eq_comm]
  | unreadable hhelper _ | definitions hhelper _ _ => simp [hhelper]
  | ready hready =>
    obtain ⟨helper, hhelper, -⟩ := hready
    simp [hhelper]

theorem unreadable_iff (h : Prepares fs catalog path outcome) (p : String) (cause : FileError) :
    outcome = .error (.unreadable p cause) ↔
      p = path ∧ (∃ helper, helperName? path = some helper) ∧ fs.readText path = .error cause := by
  cases h with
  | notFeature hhelper => simp [hhelper]
  | unreadable hhelper htext => simp [hhelper, htext, eq_comm]
  | definitions hhelper htext _ => simp [htext]
  | ready hready =>
    obtain ⟨helper, -, htext, -⟩ := hready
    simp [htext]

theorem definitions_iff (h : Prepares fs catalog path outcome) (helper : String)
    (cause : RegistryError) :
    outcome = .error (.definitions helper cause) ↔
      helperName? path = some helper ∧ (∃ text, fs.readText path = .ok text) ∧
        catalog.instantiate helper = some (.error cause) := by
  cases h with
  | notFeature hhelper => simp [hhelper]
  | unreadable hhelper htext => simp [htext]
  | definitions hhelper htext hentry =>
    simp only [hhelper, htext, Except.error.injEq, RunError.definitions.injEq, Option.some.injEq]
    constructor
    · rintro ⟨rfl, rfl⟩
      exact ⟨rfl, ⟨_, rfl⟩, hentry⟩
    · rintro ⟨rfl, -, h⟩
      rw [hentry] at h
      cases h
      exact ⟨rfl, rfl⟩
  | ready hready =>
    obtain ⟨helper', hhelper, -, hlive⟩ := hready
    refine iff_of_false (by simp) ?_
    rintro ⟨hhelper', -, hentry⟩
    rw [hhelper] at hhelper'
    cases hhelper'
    rw [hentry] at hlive
    cases hlive

/-- Whether a file is ready, and with what, is settled before it is run. -/
theorem ready_iff (h : Prepares fs catalog path outcome) (text : String) (live : LiveExecutor) :
    Ready fs catalog path text live ↔ ∃ advice, outcome = .ok ⟨text, live, advice⟩ := by
  constructor
  · rintro ⟨helper, hhelper, htext, hlive⟩
    -- each error contradicts one of the three, and without an error they are the same
    cases h with
    | notFeature hnone => rw [hnone] at hhelper; cases hhelper
    | unreadable _ herror => rw [herror] at htext; cases htext
    | definitions hhelper' _ herror =>
      rw [hhelper'] at hhelper
      cases hhelper
      rw [herror] at hlive
      cases hlive
    | @ready file hready =>
      obtain ⟨helper', hhelper', htext', hlive'⟩ := hready
      rw [hhelper] at hhelper'
      cases hhelper'
      rw [htext] at htext'
      rw [hlive] at hlive'
      cases htext'
      cases hlive'
      exact ⟨file.advice, rfl⟩
  · rintro ⟨advice, rfl⟩
    cases h with
    | ready hready => exact hready

end Prepares

/-- A file whose bytes are no text cannot be read. -/
theorem Tree.readText_notText {tree : Tree} {path : String} {place : Place} {content : ByteArray}
    (hfile : tree.find true path = .ok (place, .file content))
    (hcontent : String.fromUTF8? content = none) :
    tree.fileSystem.readText path = .error .notText := by
  simp only [fileSystem, hfile, hcontent]

/-! ## Runs that are watched -/

/-- All that a run does outside of itself: what its reporter was told, and which calls were made on
executors, hooks and steps alike. -/
structure Watched (ρ : Type) where
  reporter : ρ
  calls : List Call := []

/-- Runs a script, and keeps its calls behind those that were made before. -/
def watchScript (R : Reporter ρ) (path text : String) (live : LiveExecutor) (reporter : ρ)
    (calls : List Call) : Except InterpretError Unit × Stage (Logged live.State) ρ :=
  interpret live.executor.logged R { state := live.state, calls } reporter text path

/-- Runs the text of a file, as `runText` does. -/
def watchText (R : Reporter ρ) (path : String) (file : Prepared) (o : Watched ρ) :
    Except RunError Tally × Watched ρ :=
  match watchScript (AdviceLog.report R) path file.text file.live { inner := o.reporter }
      o.calls with
  | (.error e, s) => (.error (.script e), ⟨s.reporter.inner, s.executor.calls⟩)
  | (.ok (), s) =>
    let log := s.reporter
    (.ok log.tally,
      ⟨reportAdvice R path log.inner (file.advice ++ log.advice), s.executor.calls⟩)

/-- Runs the file at a path, as `runFeature` does. -/
def watchFeature (fs : FileSystem) (catalog : Catalog) (R : Reporter ρ) (path : String)
    (o : Watched ρ) : Except RunError Tally × Watched ρ :=
  match prepare fs catalog path with
  | .error e => (.error e, o)
  | .ok file => watchText R path file o

section

variable (R : Reporter ρ) (path : String) (file : Prepared) (o : Watched ρ)

theorem watchText_eq :
    runText R path file.text file.live file.advice o.reporter =
      ((watchText R path file o).1, (watchText R path file o).2.reporter) := by
  unfold runText watchText watchScript
  rw [interpret_logged file.live.executor _ { state := file.live.state, calls := o.calls }]
  obtain ⟨outcome, s⟩ := interpret file.live.executor.logged (AdviceLog.report R)
    { state := file.live.state, calls := o.calls } { inner := o.reporter } file.text path
  cases outcome <;> rfl

/-- Watching a run changes nothing. -/
theorem watchFeature_eq (fs : FileSystem) (catalog : Catalog) :
    runFeature fs catalog R path o.reporter =
      ((watchFeature fs catalog R path o).1, (watchFeature fs catalog R path o).2.reporter) := by
  rw [runFeature_eq, watchFeature]
  cases prepare fs catalog path with
  | error e => rfl
  | ok file => exact watchText_eq R path file o

end

/-! ## Scripts that fail -/

section

variable (R : Reporter ρ) (path text : String) (live : LiveExecutor)

/-- A script does the same with a log of advice in front of its reporter. -/
theorem watchScript_inner (log : AdviceLog ρ) (calls : List Call) :
    let logged := watchScript (AdviceLog.report R) path text live log calls
    watchScript R path text live log.inner calls = (logged.1, logged.2.map id AdviceLog.inner) :=
  interpret_map (.refl live.executor.logged) (AdviceLog.report_projects_inner R)
    { state := live.state, calls } log text path

/-- A script tells its first lines one by one and nothing else. -/
theorem watchScript_tells (r : ρ) (calls : List Call) :
    ∃ n events, (watchScript R path text live r calls).2.reporter = R.reportAll r events ∧
      List.Forall₂ Tells ((scriptLines text path).take n) events := by
  let start : Stage (Logged live.State) Recording :=
    { executor := { state := live.state, calls }, reporter := {} }
  -- what any reporter is told is what a recording keeps, and that narrates the lines
  obtain ⟨n, hnarrates⟩ := start.interpret_narrates (E := live.executor) rfl text path
  refine ⟨n, _, ?_, hnarrates.tells⟩
  rw [watchScript, interpret_reportAll]
  rfl

/-- How a run ends is how its script ends. A script that fails drops all advice on the file. -/
theorem watchText_cases (file : Prepared) (o : Watched ρ) :
    let script := watchScript R path file.text file.live o.reporter o.calls
    let run := watchText R path file o
    (script.1 = .ok () ∧ ∃ tally, run.1 = .ok tally) ∨
      ∃ cause, script.1 = .error cause ∧
        run = (.error (.script cause), ⟨script.2.reporter, script.2.executor.calls⟩) := by
  intro script run
  have hinner : script = _ :=
    watchScript_inner R path file.text file.live { inner := o.reporter } o.calls
  have hrun : run = watchText R path file o := rfl
  rw [hinner, hrun, watchText]
  obtain ⟨outcome, s⟩ := watchScript (AdviceLog.report R) path file.text file.live
    { inner := o.reporter } o.calls
  cases outcome with
  | ok u => exact .inl ⟨rfl, _, rfl⟩
  | error cause => exact .inr ⟨cause, rfl, rfl⟩

end

theorem Tells.not_advice {lines : List Line} {events : List Event}
    (h : List.Forall₂ Tells lines events) (source message : String) :
    .advice source message ∉ events := by
  induction h with
  | nil => exact List.not_mem_nil
  | cons hline _ ih =>
    rw [List.mem_cons, not_or]
    refine ⟨?_, ih⟩
    rintro rfl
    cases hline.line?

/-! ## Files that fail to run -/

section

variable {fs : FileSystem} {catalog : Catalog} {R : Reporter ρ} {path : String} {o : Watched ρ}

theorem watchFeature_of_error {e : RunError} (h : prepare fs catalog path = .error e) :
    watchFeature fs catalog R path o = (.error e, o) := by
  rw [watchFeature, h]

theorem watchFeature_of_ok {file : Prepared} (h : prepare fs catalog path = .ok file) :
    watchFeature fs catalog R path o = watchText R path file o := by
  rw [watchFeature, h]

/-- An error other than one of the script is one of getting the file ready. -/
theorem watchFeature_error_iff {e : RunError} (he : ∀ cause, e ≠ .script cause) :
    (watchFeature fs catalog R path o).1 = .error e ↔ prepare fs catalog path = .error e := by
  cases hfile : prepare fs catalog path with
  | error e' => rw [watchFeature_of_error hfile]; simp
  | ok file =>
    rw [watchFeature_of_ok hfile]
    -- a file that is ready fails by its script alone
    refine iff_of_false (fun herror => ?_) (by simp)
    obtain ⟨-, tally, hok⟩ | ⟨cause, -, hrun⟩ := watchText_cases R path file o
    · rw [hok] at herror
      cases herror
    · rw [hrun] at herror
      cases herror
      exact he cause rfl

/-- Once a file is ready, its run fails exactly if its script does, and nothing follows that. -/
theorem Ready.watchFeature_script {text : String} {live : LiveExecutor}
    (h : Ready fs catalog path text live) (cause : InterpretError) :
    let script := watchScript R path text live o.reporter o.calls
    let run := watchFeature fs catalog R path o
    (run.1 = .error (.script cause) ↔ script.1 = .error cause) ∧
      (run.1 = .error (.script cause) →
        run.2 = ⟨script.2.reporter, script.2.executor.calls⟩) := by
  obtain ⟨advice, hfile⟩ := ((prepare_prepares fs catalog path).ready_iff text live).mp h
  rw [watchFeature_of_ok hfile]
  obtain ⟨hscript, tally, hok⟩ | ⟨cause', hscript, hrun⟩ :=
    watchText_cases R path ⟨text, live, advice⟩ o
  · dsimp only at hscript hok
    simp [hscript, hok]
  · dsimp only at hscript hrun
    simp [hscript, hrun]

theorem ready_of_script {cause : InterpretError}
    (h : (watchFeature fs catalog R path o).1 = .error (.script cause)) :
    ∃ text live, Ready fs catalog path text live := by
  have hprepares := prepare_prepares fs catalog path
  cases hfile : prepare fs catalog path with
  | error e =>
    rw [watchFeature_of_error hfile] at h
    rw [hfile] at hprepares
    cases h
    cases hprepares
  | ok file => exact ⟨_, _, (hprepares.ready_iff file.text file.live).mpr ⟨file.advice, hfile⟩⟩

end

/-- What a file that fails to run leaves behind, whatever the reporter was told and the executors
were asked before. The name of the file is checked first, then it is read, and then its provider is
built: each error tells that the checks before it went well, whatever is behind it. With such an
error nothing is told and nothing is called. With the error of a script, the reporter was told what
the script told before it failed, which is its first lines one by one, and no advice. -/
theorem failed_run_leaves_reporter (fs : FileSystem) (catalog : Catalog) (R : Reporter ρ)
    (path : String) (o : Watched ρ) :
    let run := watchFeature fs catalog R path o
    runFeature fs catalog R path o.reporter = (run.1, run.2.reporter) ∧
    (∀ p, run.1 = .error (.notFeature p) ↔ p = path ∧ helperName? path = none) ∧
    (∀ p cause, run.1 = .error (.unreadable p cause) ↔
      p = path ∧ (∃ helper, helperName? path = some helper) ∧ fs.readText path = .error cause) ∧
    (∀ tree place content helper, fs = Tree.fileSystem tree →
      tree.find true path = .ok (place, .file content) → String.fromUTF8? content = none →
      helperName? path = some helper → run.1 = .error (.unreadable path .notText)) ∧
    (∀ helper cause, run.1 = .error (.definitions helper cause) ↔
      helperName? path = some helper ∧ (∃ text, fs.readText path = .ok text) ∧
        catalog.instantiate helper = some (.error cause)) ∧
    (∀ dir cause, run.1 ≠ .error (.unlisted dir cause)) ∧
    (∀ e, run.1 = .error e → (∀ cause, e ≠ .script cause) → run.2 = o) ∧
    (∀ cause, run.1 = .error (.script cause) ↔ ∃ text live, Ready fs catalog path text live ∧
      (watchScript R path text live o.reporter o.calls).1 = .error cause) ∧
    ∀ text live cause, Ready fs catalog path text live → run.1 = .error (.script cause) →
      let script := watchScript R path text live o.reporter o.calls
      interpret live.executor R live.state o.reporter text path =
        (script.1, script.2.map Logged.state id) ∧
      run.2 = ⟨script.2.reporter, script.2.executor.calls⟩ ∧
      ∃ n events, script.2.reporter = R.reportAll o.reporter events ∧
        List.Forall₂ Tells ((scriptLines text path).take n) events ∧
        ∀ source message, .advice source message ∉ events := by
  intro run
  have hprepares := prepare_prepares fs catalog path
  have hunreadable (p : String) (cause : FileError) : run.1 = .error (.unreadable p cause) ↔ _ :=
    (watchFeature_error_iff (by simp)).trans (hprepares.unreadable_iff p cause)
  refine ⟨watchFeature_eq R path o fs catalog, fun p => ?_, hunreadable, ?_,
    fun helper cause => ?_, fun dir cause herror => ?_, fun e herror he => ?_,
    fun cause => ⟨fun herror => ?_, ?_⟩, ?_⟩
  · exact (watchFeature_error_iff (by simp)).trans (hprepares.notFeature_iff p)
  · rintro tree place content helper rfl hfile hcontent hhelper
    exact (hunreadable path .notText).mpr
      ⟨rfl, ⟨helper, hhelper⟩, Tree.readText_notText hfile hcontent⟩
  · exact (watchFeature_error_iff (by simp)).trans (hprepares.definitions_iff helper cause)
  · rw [(watchFeature_error_iff (by simp)).mp herror] at hprepares
    cases hprepares
  · have hfailed := (watchFeature_error_iff he).mp herror
    exact congrArg Prod.snd (watchFeature_of_error hfailed)
  · obtain ⟨text, live, hready⟩ := ready_of_script herror
    exact ⟨text, live, hready, (hready.watchFeature_script cause).1.mp herror⟩
  · rintro ⟨text, live, hready, hscript⟩
    exact (hready.watchFeature_script cause).1.mpr hscript
  · intro text live cause hready herror script
    obtain ⟨n, events, htold, htells⟩ := watchScript_tells R path text live o.reporter o.calls
    exact ⟨interpret_logged live.executor R { state := live.state, calls := o.calls } _ text path,
      (hready.watchFeature_script cause).2 herror, n, events, htold, htells,
      Tells.not_advice htells⟩

/-- No provider is registered, but there is no advice on that: the second line stops the script. -/
example :
    (runFeature (.everywhere "Scenario: s\nAnd b\nWhen c\n") .empty Recording.report
      "demo.feature" {}).2.events.map Event.label = ["scenario"] := by
  decide +kernel

end FeatureScript
