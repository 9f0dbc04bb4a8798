import FeatureScript.Advice.Log
import FeatureScript.Run.Catalog
import FeatureScript.Run.Error
import FeatureScript.Run.Helper

/-!
# FeatureScript.Run.Feature

Running one feature file: its lines are reported first, and then the advice on it. A file whose
helper has no provider runs with the null executor, so its steps are missing; the advice begins with
how to register one.

The name of the file is checked first, then it is read, and then its provider is built. When one of
these fails nothing is reported, and when the script fails there is no advice.
-/

namespace FeatureScript

variable {ρ : Type}

/-- The executor of a helper, with the advice on what is missing. -/
def executorFor (catalog : Catalog) (helper path : String) :
    Except RunError (LiveExecutor × List Advice) :=
  match catalog.instantiate helper with
  | some (.ok live) => .ok (live, [])
  | some (.error e) => .error (.definitions helper e)
  | none => .ok (.null, [.noProvider helper (helperTypeName helper) path])

/-- Reports advice on a file. -/
def reportAdvice (R : Reporter ρ) (path : String) (r : ρ) (advice : List Advice) : ρ :=
  R.reportAll r (advice.map fun a => .advice path a.message)

/-- Runs the text of a feature file, and then reports the advice that was given before and the
advice on the run. -/
def runText (R : Reporter ρ) (path text : String) (live : LiveExecutor) (advice : List Advice)
    (r : ρ) : Except RunError Tally × ρ :=
  match interpret live.executor (AdviceLog.report R) live.state { inner := r } text path with
  | (.error e, s) => (.error (.script e), s.reporter.inner)
  | (.ok (), s) =>
    let log := s.reporter
    (.ok log.tally, reportAdvice R path log.inner (advice ++ log.advice))

/-- Runs the feature file at a path. -/
def runFeature (fs : FileSystem) (catalog : Catalog) (R : Reporter ρ) (path : String) (r : ρ) :
    Except RunError Tally × ρ :=
  match helperName? path with
  | none => (.error (.notFeature path), r)
  | some helper =>
    match fs.readText path with
    | .error e => (.error (.unreadable path e), r)
    | .ok text =>
      match executorFor catalog helper path with
      | .error e => (.error e, r)
      | .ok (live, advice) => runText R path text live advice r

end FeatureScript
