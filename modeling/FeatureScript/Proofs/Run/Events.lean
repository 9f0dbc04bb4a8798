import FeatureScript.Proofs.Run.Advice
import FeatureScript.Run.Directory

/-!
# FeatureScript.Proofs.Run.Events

What a run tells does not depend on who listens.

`Told`: a run ends the same way whatever reporter it is given, and feeds it the same events. This
holds of running a text, a file, a list of files and a directory, so what is known of the recording
of a run is known of every report on it (`runDirectory_told`).
-/

namespace FeatureScript

variable {α ρ : Type} {fs : FileSystem} {catalog : Catalog}

/-- The run ends with the outcome and tells these events, whoever listens to it. -/
structure Told (run : ∀ ρ : Type, Reporter ρ → ρ → α × ρ) (outcome : α) (events : List Event) :
    Prop where
  run_eq : ∀ (ρ : Type) (R : Reporter ρ) (r : ρ), run ρ R r = (outcome, R.reportAll r events)

theorem reportAll_append (R : Reporter ρ) (r : ρ) (xs ys : List Event) :
    R.reportAll r (xs ++ ys) = R.reportAll (R.reportAll r xs) ys := List.foldl_append

namespace Told

variable {run : ∀ ρ : Type, Reporter ρ → ρ → α × ρ} {outcome : α} {events : List Event}

/-- A recording holds what is told. -/
theorem recording (h : Told run outcome events) :
    run Recording Recording.report {} = (outcome, ⟨events⟩) := by
  rw [h.run_eq, Recording.reportAll_eq]
  rfl

/-- A run that stops before anything is told. -/
theorem nothing (outcome : α) : Told (fun _ _ r => (outcome, r)) outcome [] := ⟨fun _ _ _ => rfl⟩

theorem advice (path : String) (outcome : α) (given : List Advice) :
    Told (fun _ R r => (outcome, reportAdvice R path r given)) outcome
      (given.map fun a => .advice path a.message) := ⟨fun _ _ _ => rfl⟩

end Told

/-! ## Texts and files -/

theorem runText_told (path text : String) (live : LiveExecutor) (given : List Advice) :
    ∃ outcome events, Told (fun _ R => runText R path text live given) outcome events := by
  let run := interpret live.executor Recording.report live.state {} text path
  cases houtcome : run.1 with
  | error e => exact ⟨_, _, ⟨fun ρ R r => (runText_eq R path text live given r).trans
      (by rw [houtcome])⟩⟩
  | ok u => exact ⟨_, _, ⟨fun ρ R r => (runText_eq R path text live given r).trans
      (by rw [houtcome])⟩⟩

theorem runFeature_told (fs : FileSystem) (catalog : Catalog) (path : String) :
    ∃ outcome events, Told (fun _ R => runFeature fs catalog R path) outcome events := by
  unfold runFeature
  cases helperName? path with
  | none => exact ⟨_, _, .nothing _⟩
  | some helper =>
    cases fs.readText path with
    | error e => exact ⟨_, _, .nothing _⟩
    | ok text =>
      dsimp only
      cases executorFor catalog helper path with
      | error e => exact ⟨_, _, .nothing _⟩
      | ok found => exact runText_told path text found.1 found.2

/-! ## Lists of files -/

section

variable {path : String} {rest : List String} {summary : RunSummary} {xs ys : List Event}

/-- The events of the first file come before those of the others. -/
theorem Told.cons {tally : Tally} {outcome : Except RunError RunSummary}
    (hfile : Told (fun _ R => runFeature fs catalog R path) (.ok tally) xs)
    (hrest : Told (fun _ R => runFeatures fs catalog R (summary.add tally) rest) outcome ys) :
    Told (fun _ R => runFeatures fs catalog R summary (path :: rest)) outcome (xs ++ ys) where
  run_eq ρ R r := by
    simp only [runFeatures, hfile.run_eq ρ R r, reportAll_append]
    exact hrest.run_eq ρ R _

/-- The first file that fails to run is the last one. -/
theorem Told.cons_of_error {e : RunError}
    (hfile : Told (fun _ R => runFeature fs catalog R path) (.error e) xs) :
    Told (fun _ R => runFeatures fs catalog R summary (path :: rest)) (.error e) xs where
  run_eq ρ R r := by simp only [runFeatures, hfile.run_eq ρ R r]

end

theorem runFeatures_told (fs : FileSystem) (catalog : Catalog) (summary : RunSummary)
    (paths : List String) :
    ∃ outcome events, Told (fun _ R => runFeatures fs catalog R summary paths) outcome events := by
  induction paths generalizing summary with
  | nil => exact ⟨_, _, .nothing _⟩
  | cons path rest ih =>
    obtain ⟨outcome, xs, hfile⟩ := runFeature_told fs catalog path
    cases outcome with
    | error e => exact ⟨_, _, hfile.cons_of_error⟩
    | ok tally =>
      obtain ⟨outcome, ys, hrest⟩ := ih (summary.add tally)
      exact ⟨_, _, hfile.cons hrest⟩

/-! ## Directories -/

/-- The paths that are run: those of the feature files, and none where there is no directory. -/
def Ran (fs : FileSystem) (dir : String) (paths : List String) : Prop :=
  if fs.isDirectory dir then discover fs dir = .ok paths else paths = []

theorem runDirectory_told (fs : FileSystem) (catalog : Catalog) (dir : String) :
    ∃ outcome events, Told (fun _ R => runDirectory fs catalog R dir) outcome events := by
  unfold runDirectory
  cases fs.isDirectory dir with
  | false => exact ⟨_, _, .advice dir _ [.missingFeaturesDir dir]⟩
  | true =>
    cases discover fs dir with
    | error e => exact ⟨_, _, .nothing _⟩
    | ok paths =>
      cases paths with
      | nil => exact ⟨_, _, .advice dir _ [.noFeatures dir]⟩
      | cons path rest => exact runFeatures_told fs catalog {} (path :: rest)

end FeatureScript
