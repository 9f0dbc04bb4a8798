import FeatureScript.Proofs.Run.Totals

/-!
# FeatureScript.Proofs.Run.Composition

A run of a directory is made of the runs of its files.

`outcomeOf` and `toldOf` are what becomes of a file that is run by itself. Nothing is carried from
one file to the next, so the files of a directory tell what they tell by themselves, one after the
other up to the first that fails (`runFeatures_composes`). What a file tells names its path and
depends on its text only, so it can be found again in the run of any directory that has the file
(`runDirectory_composes`).
-/

namespace FeatureScript

variable {ρ : Type} {fs fs' : FileSystem} {catalog : Catalog} {dir path : String}
  {paths : List String}

/-! ## Files by themselves -/

/-- How a file ends that is run by itself. -/
def outcomeOf (fs : FileSystem) (catalog : Catalog) (path : String) : Except RunError Tally :=
  (runFeature fs catalog Recording.report path {}).1

/-- What a file tells that is run by itself. -/
def toldOf (fs : FileSystem) (catalog : Catalog) (path : String) : List Event :=
  (runFeature fs catalog Recording.report path {}).2.events

theorem runFeature_told_alone (fs : FileSystem) (catalog : Catalog) (path : String) :
    Told (fun _ R => runFeature fs catalog R path) (outcomeOf fs catalog path)
      (toldOf fs catalog path) := by
  obtain ⟨outcome, events, h⟩ := runFeature_told fs catalog path
  rwa [outcomeOf, toldOf, h.recording]

/-- A file is run as its text says, whatever else there is. -/
theorem runFeature_congr (h : fs'.readText path = fs.readText path) (catalog : Catalog)
    (R : Reporter ρ) (r : ρ) : runFeature fs' catalog R path r = runFeature fs catalog R path r := by
  unfold runFeature
  rw [h]

theorem toldOf_congr (h : fs'.readText path = fs.readText path) (catalog : Catalog) :
    toldOf fs' catalog path = toldOf fs catalog path := by
  rw [toldOf, toldOf, runFeature_congr h]

/-- The script or the path that an event is about. -/
def Event.source : Event → String
  | .feature line _ | .scenario line _ | .text line | .step line _ => line.source
  | .advice source _ => source

theorem Tells.source {line : Line} {e : Event} (h : Tells line e) : e.source = line.source := by
  have hline := h.line?
  cases e with
  | advice source message => cases hline
  | _ => cases hline; rfl

/-- A text tells of its path only. -/
theorem runText_source (path text : String) (live : LiveExecutor) (given : List Advice) :
    ∀ e ∈ (runText Recording.report path text live given {}).2.events, e.source = path := by
  have hlines : ∀ e ∈ (interpret live.executor Recording.report live.state {} text
      path).2.reporter.events, e.source = path := by
    intro e he
    obtain ⟨line, hline, htells⟩ := interpret_tells e he
    obtain ⟨i, hi⟩ := List.getElem?_of_mem hline
    rw [htells.source, (scriptLines_getElem hi).2.1]
  have hadvice : ∀ (given : List Advice), ∀ e ∈ given.map fun a => Event.advice path a.message,
      e.source = path := by
    intro given e he
    obtain ⟨a, -, rfl⟩ := List.mem_map.mp he
    rfl
  rw [runText_eq]
  intro e he
  split at he
  · simp only [Recording.reportAll_eq, List.nil_append] at he
    exact hlines e he
  · simp only [Recording.reportAll_eq, List.nil_append] at he
    rcases List.mem_append.mp he with he | he
    · exact hlines e he
    · exact hadvice _ e he

theorem toldOf_source (fs : FileSystem) (catalog : Catalog) (path : String) :
    ∀ e ∈ toldOf fs catalog path, e.source = path := by
  unfold toldOf runFeature
  cases helperName? path with
  | none => simp
  | some helper =>
    cases fs.readText path with
    | error e => simp
    | ok text =>
      cases hexecutor : executorFor catalog helper path with
      | error e => simp [hexecutor]
      | ok found => simpa [hexecutor] using runText_source path text found.1 found.2

/-! ## Files in order -/

/-- The file is run to its end. -/
def RunsWell (fs : FileSystem) (catalog : Catalog) (path : String) : Prop :=
  ∃ tally, outcomeOf fs catalog path = .ok tally

/-- The files before it are run to their ends, and this one fails. -/
structure StopsAt (fs : FileSystem) (catalog : Catalog) (paths before : List String)
    (path : String) (e : RunError) : Prop where
  split : ∃ after, paths = before ++ path :: after
  well : ∀ p ∈ before, RunsWell fs catalog p
  outcome : outcomeOf fs catalog path = .error e

/-- The files that are run: those up to the first that fails, which is the last one. -/
def reachedFiles (fs : FileSystem) (catalog : Catalog) : List String → List String
  | [] => []
  | path :: rest =>
    match outcomeOf fs catalog path with
    | .ok _ => path :: reachedFiles fs catalog rest
    | .error _ => [path]

theorem reachedFiles_of_well (h : ∀ path ∈ paths, RunsWell fs catalog path) :
    reachedFiles fs catalog paths = paths := by
  induction paths with
  | nil => rfl
  | cons path rest ih =>
    obtain ⟨⟨tally, hpath⟩, hrest⟩ := List.forall_mem_cons.mp h
    simp only [reachedFiles, hpath, ih hrest]

theorem reachedFiles_of_stopsAt {before : List String} {e : RunError}
    (h : StopsAt fs catalog paths before path e) :
    reachedFiles fs catalog paths = before ++ [path] := by
  obtain ⟨⟨after, rfl⟩, hbefore, hpath⟩ := h
  induction before with
  | nil => simp only [List.nil_append, reachedFiles, hpath]
  | cons first before ih =>
    obtain ⟨⟨tally, hfirst⟩, hbefore⟩ := List.forall_mem_cons.mp hbefore
    simp only [List.cons_append, reachedFiles, hfirst, ih hbefore]

/-- The files stop at one error only. -/
theorem StopsAt.unique {before before' : List String} {path' : String} {e e' : RunError}
    (h : StopsAt fs catalog paths before path e) (h' : StopsAt fs catalog paths before' path' e') :
    e = e' := by
  have hpaths := (reachedFiles_of_stopsAt h).symm.trans (reachedFiles_of_stopsAt h')
  obtain ⟨-, hpath⟩ := List.append_inj' hpaths rfl
  cases hpath
  exact Except.error.inj (h.outcome.symm.trans h'.outcome)

theorem StopsAt.not_well {before : List String} {e : RunError}
    (h : StopsAt fs catalog paths before path e) : ¬ ∀ path ∈ paths, RunsWell fs catalog path := by
  intro hwell
  obtain ⟨⟨after, rfl⟩, -, hpath⟩ := h
  obtain ⟨tally, htally⟩ := hwell path (by simp)
  rw [htally] at hpath
  cases hpath

/-- The files are run one after the other. Either all of them are run to their ends, and then the
run ends well, or it ends as the first one that fails. -/
theorem runFeatures_composes (fs : FileSystem) (catalog : Catalog) (summary : RunSummary)
    (paths : List String) :
    ∃ outcome, Told (fun _ R => runFeatures fs catalog R summary paths) outcome
        ((reachedFiles fs catalog paths).flatMap (toldOf fs catalog)) ∧
      ((∃ total, outcome = .ok total ∧ ∀ path ∈ paths, RunsWell fs catalog path) ∨
        ∃ before path e, outcome = .error e ∧ StopsAt fs catalog paths before path e) := by
  induction paths generalizing summary with
  | nil => exact ⟨_, .nothing _, .inl ⟨summary, rfl, by simp⟩⟩
  | cons path rest ih =>
    have hfile := runFeature_told_alone fs catalog path
    unfold reachedFiles
    cases hpath : outcomeOf fs catalog path with
    | error e =>
      rw [hpath] at hfile
      rw [List.flatMap_singleton]
      exact ⟨_, hfile.cons_of_error, .inr ⟨[], path, e, rfl, ⟨rest, rfl⟩, by simp, hpath⟩⟩
    | ok tally =>
      rw [hpath] at hfile
      rw [List.flatMap_cons]
      obtain ⟨outcome, hrest, hends⟩ := ih (summary.add tally)
      refine ⟨outcome, hfile.cons hrest, hends.imp ?_ ?_⟩
      · rintro ⟨total, htotal, hwell⟩
        exact ⟨total, htotal, List.forall_mem_cons.mpr ⟨⟨tally, hpath⟩, hwell⟩⟩
      · rintro ⟨before, last, e, he, ⟨⟨after, hafter⟩, hbefore, hlast⟩⟩
        exact ⟨path :: before, last, e, he, ⟨after, by rw [hafter]; rfl⟩,
          List.forall_mem_cons.mpr ⟨⟨tally, hpath⟩, hbefore⟩, hlast⟩

/-! ## Directories -/

theorem runDirectory_of_files (hdir : fs.isDirectory dir = true)
    (hfound : discover fs dir = .ok paths) (hfiles : paths ≠ []) (R : Reporter ρ) (r : ρ) :
    runDirectory fs catalog R dir r = runFeatures fs catalog R {} paths r := by
  rw [runDirectory, if_pos hdir, hfound]
  cases paths with
  | nil => exact absurd rfl hfiles
  | cons path rest => rfl

theorem runDirectory_told_files (catalog : Catalog) (hdir : fs.isDirectory dir = true)
    (hfound : discover fs dir = .ok paths) (hfiles : paths ≠ []) :
    ∃ outcome, Told (fun _ R => runDirectory fs catalog R dir) outcome
        ((reachedFiles fs catalog paths).flatMap (toldOf fs catalog)) ∧
      ((∃ total, outcome = .ok total ∧ ∀ path ∈ paths, RunsWell fs catalog path) ∨
        ∃ before path e, outcome = .error e ∧ StopsAt fs catalog paths before path e) := by
  obtain ⟨outcome, htold, hends⟩ := runFeatures_composes fs catalog {} paths
  refine ⟨outcome, ⟨fun ρ R r => ?_⟩, hends⟩
  rw [runDirectory_of_files hdir hfound hfiles, htold.run_eq]

/-- What is told of a file that is reached is what it tells by itself. -/
theorem mem_told_of_reached (hdir : fs.isDirectory dir = true) (hfound : discover fs dir = .ok paths)
    (hpath : path ∈ reachedFiles fs catalog paths) {e : Event} (he : e.source = path) :
    e ∈ (runDirectory fs catalog Recording.report dir {}).2.events ↔
      e ∈ toldOf fs catalog path := by
  have hfiles : paths ≠ [] := by
    rintro rfl
    cases hpath
  obtain ⟨outcome, htold, -⟩ := runDirectory_told_files catalog hdir hfound hfiles
  rw [htold.recording]
  constructor
  · intro h
    obtain ⟨path', -, htold⟩ := List.mem_flatMap.mp h
    rwa [← he, toldOf_source fs catalog path' e htold]
  · intro h
    exact List.mem_flatMap.mpr ⟨path, hpath, h⟩

/-- A run of a directory with feature files is made of the runs of its files. A file is run as it is
by itself, whoever listens. The files tell one after the other, up to the first that fails, and
nothing is told of those behind it. The run ends well exactly if all of them do, and else with the
error of the first that fails. What is told of a file that is reached is the same in any other
directory in which it is reached with the same text, whatever other files there are. -/
theorem runDirectory_composes (catalog : Catalog) (hdir : fs.isDirectory dir = true)
    (hfound : discover fs dir = .ok paths) (hfiles : paths ≠ []) :
    (∀ path ρ (R : Reporter ρ) r, runFeature fs catalog R path r =
      (outcomeOf fs catalog path, R.reportAll r (toldOf fs catalog path))) ∧
    ((∀ path ∈ paths, RunsWell fs catalog path) →
      ∃ summary, ∀ ρ (R : Reporter ρ) r, runDirectory fs catalog R dir r =
        (.ok summary, R.reportAll r (paths.flatMap (toldOf fs catalog)))) ∧
    (∀ before path e, StopsAt fs catalog paths before path e →
      ∀ ρ (R : Reporter ρ) r, runDirectory fs catalog R dir r =
        (.error e, R.reportAll r ((before ++ [path]).flatMap (toldOf fs catalog)))) ∧
    (∀ ρ (R : Reporter ρ) r,
      ((∃ summary, (runDirectory fs catalog R dir r).1 = .ok summary) ↔
        ∀ path ∈ paths, RunsWell fs catalog path) ∧
      ∀ e, (runDirectory fs catalog R dir r).1 = .error e ↔
        ∃ before path, StopsAt fs catalog paths before path e) ∧
    ∀ fs' dir' paths', fs'.isDirectory dir' = true → discover fs' dir' = .ok paths' →
      ∀ path ∈ reachedFiles fs catalog paths, path ∈ reachedFiles fs' catalog paths' →
        fs'.readText path = fs.readText path → ∀ e : Event, e.source = path →
          (e ∈ (runDirectory fs' catalog Recording.report dir' {}).2.events ↔
            e ∈ (runDirectory fs catalog Recording.report dir {}).2.events) := by
  obtain ⟨outcome, ⟨hrun⟩, hends⟩ := runDirectory_told_files catalog hdir hfound hfiles
  refine ⟨fun path => (runFeature_told_alone fs catalog path).run_eq, ?_, ?_, ?_, ?_⟩
  · intro hwell
    rcases hends with ⟨summary, rfl, -⟩ | ⟨before, path, e, -, hstops⟩
    · exact ⟨summary, fun ρ R r => by rw [hrun, reachedFiles_of_well hwell]⟩
    · exact absurd hwell hstops.not_well
  · intro before path e hstops ρ R r
    rcases hends with ⟨summary, -, hwell⟩ | ⟨before', path', e', rfl, hstops'⟩
    · exact absurd hwell hstops.not_well
    · rw [hrun, reachedFiles_of_stopsAt hstops, hstops.unique hstops']
  · intro ρ R r
    rw [hrun]
    rcases hends with ⟨summary, rfl, hwell⟩ | ⟨before, path, e, rfl, hstops⟩
    · exact ⟨iff_of_true ⟨summary, rfl⟩ hwell, fun e => iff_of_false (by simp)
        fun ⟨_, _, hstops⟩ => hstops.not_well hwell⟩
    · refine ⟨iff_of_false (by simp) hstops.not_well, fun e' => ⟨?_, ?_⟩⟩
      · rintro ⟨⟩
        exact ⟨before, path, hstops⟩
      · rintro ⟨before', path', hstops'⟩
        rw [hstops.unique hstops']
  · intro fs' dir' paths' hdir' hfound' path hpath hpath' htext e he
    rw [mem_told_of_reached hdir' hfound' hpath' he, mem_told_of_reached hdir hfound hpath he,
      toldOf_congr htext]

/-- A file that runs well in front of one that opens with a conjunction. Of the first the same is
told beside a file that runs well. -/
theorem runDirectory_composes_pair :
    let fs : FileSystem := .pair "Given a\n" "And b\n"
    let fs' : FileSystem := .pair "Given a\n" "When b\n"
    let error : RunError := .script (.danglingConjunction .and ⟨"And b", 1, "features/b.feature"⟩)
    discover fs "features" = .ok ["features/a.feature", "features/b.feature"] ∧
    StopsAt fs .empty ["features/a.feature", "features/b.feature"] ["features/a.feature"]
      "features/b.feature" error ∧
    runDirectory fs .empty Recording.report "features" {} =
      (.error error, ⟨toldOf fs .empty "features/a.feature" ++
        toldOf fs .empty "features/b.feature"⟩) ∧
    ∀ e : Event, e.source = "features/a.feature" →
      (e ∈ (runDirectory fs' .empty Recording.report "features" {}).2.events ↔
        e ∈ (runDirectory fs .empty Recording.report "features" {}).2.events) := by
  intro fs fs' error
  have hfound : discover fs "features" = .ok ["features/a.feature", "features/b.feature"] :=
    discover_pair "Given a\n" "And b\n"
  have hstops : StopsAt fs .empty ["features/a.feature", "features/b.feature"]
      ["features/a.feature"] "features/b.feature" error := by
    refine ⟨⟨[], rfl⟩, fun path hpath => ?_, by decide +kernel⟩
    rw [List.mem_singleton.mp hpath]
    exact ⟨{ missing := 1 }, by decide +kernel⟩
  obtain ⟨-, -, hstopped, -, hsame⟩ := runDirectory_composes .empty rfl hfound (by simp)
  refine ⟨hfound, hstops, ?_, ?_⟩
  · rw [hstopped _ _ _ hstops, Recording.reportAll_eq]
    simp
  · have hreached : "features/a.feature" ∈ reachedFiles fs .empty
        ["features/a.feature", "features/b.feature"] := by
      rw [reachedFiles_of_stopsAt hstops]
      exact List.mem_cons_self
    exact hsame fs' "features" _ rfl (discover_pair "Given a\n" "When b\n") _ hreached
      (by decide +kernel) rfl

end FeatureScript
