import FeatureScript.Run.Discover
import FeatureScript.Run.Feature

/-!
# FeatureScript.Run.Directory

Running the feature files of a directory, one after the other up to the first that fails. Where
there is no directory, or no feature file in it, there is advice on how to begin.
-/

namespace FeatureScript

variable {ρ : Type}

/-- The files that were run, and their tallies in one. -/
structure RunSummary where
  files : Nat := 0
  tally : Tally := {}
  deriving DecidableEq, Repr, Inhabited

namespace RunSummary

/-- No step failed. -/
def isSuccess (s : RunSummary) : Bool := !s.tally.hasFailures

/-- The summary with one more file. -/
def add (s : RunSummary) (t : Tally) : RunSummary := ⟨s.files + 1, s.tally.merge t⟩

end RunSummary

/-- Runs feature files in order. -/
def runFeatures (fs : FileSystem) (catalog : Catalog) (R : Reporter ρ) (summary : RunSummary) :
    List String → ρ → Except RunError RunSummary × ρ
  | [], r => (.ok summary, r)
  | path :: rest, r =>
    match runFeature fs catalog R path r with
    | (.ok tally, r) => runFeatures fs catalog R (summary.add tally) rest r
    | (.error e, r) => (.error e, r)

/-- Runs the feature files of a directory. -/
def runDirectory (fs : FileSystem) (catalog : Catalog) (R : Reporter ρ) (dir : String) (r : ρ) :
    Except RunError RunSummary × ρ :=
  if fs.isDirectory dir then
    match discover fs dir with
    | .error e => (.error e, r)
    | .ok [] => (.ok {}, reportAdvice R dir r [.noFeatures dir])
    | .ok paths => runFeatures fs catalog R {} paths r
  else (.ok {}, reportAdvice R dir r [.missingFeaturesDir dir])

end FeatureScript
