import FeatureScript.Proofs.Report.Document
import FeatureScript.Proofs.Run.Events
import Mathlib.Algebra.GroupWithZero.Nat

/-!
# FeatureScript.Proofs.Run.Totals

The counts of a run.

The tally of a file counts the events of the file, and so the lines of its text: one scenario for
each `Scenario` line, one step for each step line (`runFeature_counts`). Tallies are merged as the
events are put one after the other (`Tally.reportAll_eq_merge`), so the tally of a directory is the
sum of those of its files and counts the events of the whole run (`runFeatures_counts`).
`runDirectory_counts`: every way to count a run gives the same numbers.
-/

namespace FeatureScript

variable {ρ : Type} {fs : FileSystem} {catalog : Catalog}

/-! ## Sums of tallies -/

namespace Tally

/-- The sums of the counts of some tallies. -/
def sum (ts : List Tally) : Tally where
  scenarios := (ts.map scenarios).sum
  passed := (ts.map passed).sum
  failed := (ts.map failed).sum
  missing := (ts.map missing).sum
  noAssertions := (ts.map noAssertions).sum

theorem sum_cons (t : Tally) (ts : List Tally) : sum (t :: ts) = t.merge (sum ts) := by
  simp [sum, merge]

theorem merge_assoc (a b c : Tally) : (a.merge b).merge c = a.merge (b.merge c) := by
  simp [merge, Nat.add_assoc]

@[simp] theorem empty_merge (t : Tally) : ({} : Tally).merge t = t := by simp [merge]

/-- Counting events on top of a tally is merging the tally of the events into it. -/
theorem reportAll_eq_merge (t : Tally) (events : List Event) :
    report.reportAll t events = t.merge (report.reportAll {} events) := by
  simp [reportAll_eq, merge]

theorem reportAll_advice (t : Tally) (path : String) (given : List Advice) :
    report.reportAll t (given.map fun a => .advice path a.message) = t := by
  induction given with
  | nil => rfl
  | cons a rest ih => exact ih

end Tally

/-! ## Lines and events -/

namespace Token

def isStep : Token → Bool
  | .step _ _ => true
  | .feature _ | .scenario _ | .text => false

end Token

namespace Event

def isStep (e : Event) : Bool := e.result?.isSome

/-- An event of a step is of exactly one of the four kinds. -/
theorem countP_isStep (events : List Event) :
    events.countP isStep = events.countP isPassed + events.countP isFailed +
      events.countP isMissing + events.countP isSilent := by
  induction events with
  | nil => rfl
  | cons e rest ih =>
    simp only [List.countP_cons, ih]
    cases e with
    | step line result =>
      cases result <;> simp [isStep, isPassed, isFailed, isMissing, isSilent, result?] <;> omega
    | _ => simp [isStep, isPassed, isFailed, isMissing, isSilent, result?]

end Event

theorem Tells.isStep {line : Line} {e : Event} (h : Tells line e) :
    e.isStep = line.token.isStep := by
  rcases h.cases with ⟨_, ht, rfl⟩ | ⟨_, ht, rfl⟩ | ⟨_, _, _, ht, rfl⟩ | ⟨ht, rfl⟩ <;> rw [ht] <;> rfl

theorem countP_of_tells {lines : List Line} {events : List Event} {p : Event → Bool}
    {q : Token → Bool} (hpq : ∀ {line e}, Tells line e → p e = q line.token)
    (h : List.Forall₂ Tells lines events) :
    events.countP p = lines.countP fun line => q line.token := by
  induction h with
  | nil => rfl
  | cons hline _ ih => rw [List.countP_cons, List.countP_cons, ih, hpq hline]

/-! ## Files -/

/-- A file that was run: its path, its text and its tally. -/
structure FileRun where
  path : String
  text : String
  tally : Tally

namespace FileRun

def lines (f : FileRun) : List Line := scriptLines f.text f.path

/-- The file has this text, and running it ends well with this tally, whoever listens. -/
structure Of (fs : FileSystem) (catalog : Catalog) (f : FileRun) : Prop where
  readText : fs.readText f.path = .ok f.text
  outcome : ∀ (ρ : Type) (R : Reporter ρ) (r : ρ),
    (runFeature fs catalog R f.path r).1 = .ok f.tally

structure Counted (f : FileRun) : Prop where
  scenarios : f.tally.scenarios = f.lines.countP fun line => line.token.isScenario
  steps : f.tally.steps = f.lines.countP fun line => line.token.isStep

end FileRun

/-- A file that is run well: its tally counts what it tells, and the lines of its text. -/
theorem runFeature_counts {path : String} {tally : Tally} {events : List Event}
    (h : Told (fun _ R => runFeature fs catalog R path) (.ok tally) events) :
    ∃ text, FileRun.Of fs catalog ⟨path, text, tally⟩ ∧ FileRun.Counted ⟨path, text, tally⟩ ∧
      tally = Tally.report.reportAll {} events := by
  have hrecording := h.recording
  obtain ⟨helper, text, live, -, htext, -, hrun⟩ :=
    runFeature_of_ok (congrArg Prod.fst hrecording)
  rw [hrecording, runText_eq] at hrun
  cases houtcome : (interpret live.executor Recording.report live.state {} text path).1 with
  | error e =>
    rw [houtcome] at hrun
    cases hrun
  | ok u =>
    have htells := tells_of_ok houtcome
    rw [houtcome] at hrun
    obtain ⟨htally, hevents⟩ := Prod.mk.inj hrun
    rw [Recording.reportAll_eq] at hevents
    cases htally
    cases hevents
    refine ⟨text, ⟨htext, fun ρ R r => by rw [h.run_eq ρ R r]⟩, ⟨?_, ?_⟩, ?_⟩
    · refine Eq.trans ?_ (countP_of_tells Tells.isScenario htells)
      simp only [Tally.reportAll_eq, Nat.zero_add]
    · refine Eq.trans ?_ (countP_of_tells Tells.isStep htells)
      simp only [Tally.reportAll_eq, Nat.zero_add, Tally.steps, Event.countP_isStep]
    · rw [List.nil_append, reportAll_append, Tally.reportAll_advice]

/-- Files that are run well: the summary counts the files, sums up their tallies and counts all that
they tell. -/
theorem runFeatures_counts {summary total : RunSummary} {paths : List String} {events : List Event}
    (h : Told (fun _ R => runFeatures fs catalog R summary paths) (.ok total) events) :
    ∃ files : List FileRun, files.map FileRun.path = paths ∧
      (∀ f ∈ files, f.Of fs catalog ∧ f.Counted) ∧
      total.files = summary.files + files.length ∧
      total.tally = summary.tally.merge (Tally.sum (files.map FileRun.tally)) ∧
      total.tally = Tally.report.reportAll summary.tally events := by
  induction paths generalizing summary events with
  | nil =>
    obtain ⟨htotal, hevents⟩ := Prod.mk.inj h.recording
    cases htotal
    cases hevents
    exact ⟨[], rfl, by simp, rfl, rfl, rfl⟩
  | cons path rest ih =>
    obtain ⟨outcome, xs, hfile⟩ := runFeature_told fs catalog path
    cases outcome with
    -- A file that ends the run with an error is not in a run that ends well.
    | error e => cases (Prod.mk.inj (hfile.cons_of_error.recording.symm.trans h.recording)).1
    | ok tally =>
      obtain ⟨outcome, ys, hrest⟩ := runFeatures_told fs catalog (summary.add tally) rest
      obtain ⟨houtcome, hevents⟩ :=
        Prod.mk.inj ((hfile.cons hrest).recording.symm.trans h.recording)
      cases houtcome
      cases hevents
      obtain ⟨text, hof, hcounted, htally⟩ := runFeature_counts hfile
      obtain ⟨files, hpaths, hfiles, hlength, hsum, htold⟩ := ih hrest
      refine ⟨⟨path, text, tally⟩ :: files, by rw [List.map_cons, hpaths],
        List.forall_mem_cons.mpr ⟨⟨hof, hcounted⟩, hfiles⟩, ?_, ?_, ?_⟩
      · rw [hlength, List.length_cons]
        exact Nat.add_right_comm summary.files 1 files.length
      · rw [hsum, List.map_cons, Tally.sum_cons, RunSummary.add, Tally.merge_assoc]
      · rw [htold, reportAll_append, Tally.reportAll_eq_merge summary.tally xs, ← htally,
          RunSummary.add]

/-! ## Directories -/

theorem runDirectory_counts {dir : String} {summary : RunSummary} {events : List Event}
    (h : Told (fun _ R => runDirectory fs catalog R dir) (.ok summary) events) :
    ∃ files : List FileRun, Ran fs dir (files.map FileRun.path) ∧
      (∀ f ∈ files, f.Of fs catalog ∧ f.Counted) ∧
      summary.files = files.length ∧
      summary.tally = Tally.sum (files.map FileRun.tally) ∧
      summary.tally = Tally.report.reportAll {} events := by
  have hrecording := h.recording
  unfold runDirectory at h hrecording
  unfold Ran
  cases hdir : fs.isDirectory dir with
  | false =>
    simp only [hdir, Bool.false_eq_true, if_false] at hrecording ⊢
    cases hrecording
    exact ⟨[], rfl, by simp, rfl, rfl, rfl⟩
  | true =>
    simp only [hdir, if_true] at h hrecording ⊢
    cases hfound : discover fs dir with
    | error e => simp only [hfound] at hrecording; cases hrecording
    | ok paths =>
      cases paths with
      | nil =>
        simp only [hfound] at hrecording
        cases hrecording
        exact ⟨[], rfl, by simp, rfl, rfl, rfl⟩
      | cons path rest =>
        simp only [hfound] at h
        obtain ⟨files, hpaths, hfiles, hlength, hsum, htold⟩ := runFeatures_counts h
        refine ⟨files, by rw [hpaths], hfiles, hlength.trans (Nat.zero_add _), ?_, htold⟩
        rw [hsum, Tally.empty_merge]

/-- The steps of a sum are the steps of its tallies. -/
theorem Tally.steps_sum (ts : List Tally) : (Tally.sum ts).steps = (ts.map Tally.steps).sum := by
  induction ts with
  | nil => rfl
  | cons t ts ih =>
    rw [List.map_cons, List.sum_cons, ← ih, sum_cons]
    simp only [steps, merge]
    omega

theorem FileRun.sum_counted {files : List FileRun} (h : ∀ f ∈ files, f.Counted) :
    (Tally.sum (files.map tally)).scenarios =
        (files.map fun f => f.lines.countP fun line => line.token.isScenario).sum ∧
      (Tally.sum (files.map tally)).steps =
        (files.map fun f => f.lines.countP fun line => line.token.isStep).sum := by
  constructor
  · show ((files.map tally).map Tally.scenarios).sum = _
    rw [List.map_map]
    exact congrArg List.sum (List.map_congr_left fun f hf => (h f hf).scenarios)
  · rw [Tally.steps_sum, List.map_map]
    exact congrArg List.sum (List.map_congr_left fun f hf => (h f hf).steps)

/-- Every count of a run that ends well agrees. The events are those that any reporter is fed, and
the files are those that were found, each with its text and the tally its run ends with. The tally
of the run is the sum of the tallies of the files, the tally of the events, the tally and the
summary of the document on the events, and the counts of that document's entries by their status.
There are as many scenarios and steps as there are `Scenario` lines and step lines in the files, and
as many files as were found. -/
theorem runDirectory_counts_agree {R : Reporter ρ} {r : ρ} {dir : String} {summary : RunSummary}
    (h : (runDirectory fs catalog R dir r).1 = .ok summary) :
    ∃ (events : List Event) (files : List FileRun),
      (∀ (ρ : Type) (R : Reporter ρ) (r : ρ),
        runDirectory fs catalog R dir r = (.ok summary, R.reportAll r events)) ∧
      Ran fs dir (files.map FileRun.path) ∧ (∀ f ∈ files, f.Of fs catalog) ∧
      let document := Document.report.reportAll {} events
      summary.tally = Tally.sum (files.map FileRun.tally) ∧
      summary.tally = Tally.report.reportAll {} events ∧
      summary.tally = document.tally ∧
      document.json.field? "summary" = some summary.tally.json ∧
      summary.tally =
        { scenarios := document.json.countStatus "scenario"
          passed := document.json.countStatus "passed"
          failed := document.json.countStatus "failed"
          missing := document.json.countStatus "missing"
          noAssertions := document.json.countStatus "no_assertions" } ∧
      summary.tally.scenarios =
        (files.map fun f => f.lines.countP fun line => line.token.isScenario).sum ∧
      summary.tally.steps =
        (files.map fun f => f.lines.countP fun line => line.token.isStep).sum ∧
      summary.files = files.length := by
  obtain ⟨outcome, events, htold⟩ := runDirectory_told fs catalog dir
  rw [htold.run_eq] at h
  cases h
  obtain ⟨files, hran, hfiles, hlength, hsum, hevents⟩ := runDirectory_counts htold
  have hdocument : summary.tally =
      (Document.report.reportAll {} events).tally :=
    hevents.trans (by rw [Document.reportAll_eq])
  refine ⟨_, files, htold.run_eq, hran, fun f hf => (hfiles f hf).1, hsum, hevents, hdocument, ?_,
    hdocument.trans (tally_eq_countStatus _), ?_, ?_, hlength⟩
  · rw [hdocument]
    rfl
  · rw [hsum]
    show ((files.map FileRun.tally).map Tally.scenarios).sum = _
    rw [List.map_map]
    exact congrArg List.sum (List.map_congr_left fun f hf => (hfiles f hf).2.scenarios)
  · rw [hsum, Tally.steps_sum, List.map_map]
    exact congrArg List.sum (List.map_congr_left fun f hf => (hfiles f hf).2.steps)

/-- A directory with two feature files. -/
def FileSystem.pair (first second : String) : FileSystem where
  kind path := .ok (if path = "features" then .directory else .file)
  targetKind path := .ok (if path = "features" then .directory else .file)
  entries _ := .ok [⟨"a.feature".toUTF8.toList, .file⟩, ⟨"b.feature".toUTF8.toList, .file⟩]
  readText path := .ok (if path = "features/a.feature" then first else second)

theorem discover_pair (first second : String) :
    discover (.pair first second) "features" =
      .ok ["features/a.feature", "features/b.feature"] := by
  have hsort : sortNames ["a.feature".toUTF8.toList, "b.feature".toUTF8.toList] =
      ["a.feature".toUTF8.toList, "b.feature".toUTF8.toList] :=
    List.mergeSort_of_pairwise (by decide +kernel)
  have hpaths : ["a.feature".toUTF8.toList, "b.feature".toUTF8.toList].filterMap
      (featurePath? "features") = ["features/a.feature", "features/b.feature"] := by
    decide +kernel
  show Except.ok ((sortNames ["a.feature".toUTF8.toList, "b.feature".toUTF8.toList]).filterMap
    (featurePath? "features")) = _
  rw [hsort, hpaths]

theorem runDirectory_pair (first second : String) (catalog : Catalog) (R : Reporter ρ) (r : ρ) :
    runDirectory (.pair first second) catalog R "features" r =
      runFeatures (.pair first second) catalog R {} ["features/a.feature", "features/b.feature"]
        r := by
  have hdir : (FileSystem.pair first second).isDirectory "features" = true := rfl
  rw [runDirectory, if_pos hdir, discover_pair]

/-- Two files without providers: one scenario, and a missing step in each of them. -/
theorem runDirectory_counts_agree_pair :
    let fs : FileSystem := .pair "Scenario: s\n  Given a\n" "When b\n"
    (runDirectory fs .empty Recording.report "features" {}).1 =
      .ok { files := 2, tally := { scenarios := 1, missing := 2 } } ∧
    ∃ events : List Event,
      (runDirectory fs .empty Tally.report "features" {}) =
        (.ok { files := 2, tally := { scenarios := 1, missing := 2 } },
          { scenarios := 1, missing := 2 }) ∧
      (Document.report.reportAll {} events).json.countStatus "missing" = 2 := by
  intro fs
  have hrun : (runDirectory fs .empty Recording.report "features" {}).1 =
      .ok { files := 2, tally := { scenarios := 1, missing := 2 } } := by
    rw [runDirectory_pair]
    decide +kernel
  obtain ⟨events, files, hrun', -, -, -, htally, -, -, hstatus, -⟩ := runDirectory_counts_agree hrun
  refine ⟨hrun, events, ?_, (congrArg Tally.missing hstatus).symm⟩
  rw [hrun', ← htally]

end FeatureScript
