import FeatureScript.Proofs.Report.Decode
import FeatureScript.Proofs.Run.DryRun
import FeatureScript.Proofs.Run.Exit

/-!
# FeatureScript.Proofs.Run.Output

What a run leaves in its output, in either format.

The transcript is written while the files are run, and the document behind them. So a run that ends
early has written no document at all, and the transcript of all that was told before the end. The
document of a run that ends well has one entry for each heading and each step line of the files, in
order (`entries_of_files`). `document_all_or_nothing` states both for every output that takes
everything.
-/

namespace FeatureScript

variable {ω : Type} {S : Sink ω} {good : ω → Prop} {fs : FileSystem} {catalog : Catalog}
  {dir path text : String} {out : ω}

/-! ## Entries and lines -/

/-- The line that an entry is about. -/
def Entry.line (e : Entry) : Line := ⟨e.text, e.number, e.source⟩

/-- The line has an entry in the document: it is a heading or a step. -/
def Line.isEntered (l : Line) : Bool := l.token ≠ .text

theorem Tells.entry_line {line : Line} {e : Event} (h : Tells line e) :
    e.entry?.map Entry.line = if line.isEntered then some line else none := by
  unfold Line.isEntered
  rcases h.cases with ⟨_, ht, rfl⟩ | ⟨_, ht, rfl⟩ | ⟨_, _, _, ht, rfl⟩ | ⟨ht, rfl⟩
  all_goals rw [ht]; rfl

theorem entries_of_tells {lines : List Line} {events : List Event}
    (h : List.Forall₂ Tells lines events) :
    (events.filterMap Event.entry?).map Entry.line = lines.filter Line.isEntered := by
  rw [List.map_filterMap]
  induction h with
  | nil => rfl
  | cons hline _ ih =>
    rw [List.filterMap_cons, List.filter_cons, hline.entry_line, ih]
    cases Line.isEntered _ <;> rfl

theorem entry_of_not_line {e : Event} (h : e.line? = none) : e.entry? = none := by
  cases e with
  | advice source message => rfl
  | _ => cases h

/-! ## Files -/

/-- A file that is run to its end has entries for its headings and its steps, and for no advice. -/
theorem entries_of_file {tally : Tally} (houtcome : outcomeOf fs catalog path = .ok tally)
    (htext : fs.readText path = .ok text) :
    ((toldOf fs catalog path).filterMap Event.entry?).map Entry.line =
      (scriptLines text path).filter Line.isEntered := by
  obtain ⟨helper, text', live, -, htext', -, hrun⟩ := runFeature_of_ok houtcome
  obtain rfl : text = text' := Except.ok.inj (htext.symm.trans htext')
  rw [outcomeOf, hrun, runText_eq] at houtcome
  rw [toldOf, hrun, runText_eq]
  cases hend : (interpret live.executor Recording.report live.state {} text path).1 with
  | error e =>
    rw [hend] at houtcome
    cases houtcome
  | ok u =>
    have hadvice : ∀ given : List Advice,
        (given.map fun a => Event.advice path a.message).filterMap Event.entry? = [] := by
      intro given
      simp [List.filterMap_map, Function.comp_def, Event.entry?]
    simp only [Recording.reportAll_eq, List.nil_append, List.filterMap_append, hadvice,
      List.append_nil]
    exact entries_of_tells (tells_of_ok hend)

/-! ## Directories -/

theorem Ran.unique {paths paths' : List String} (h : Ran fs dir paths) (h' : Ran fs dir paths') :
    paths = paths' := by
  unfold Ran at h h'
  split at h
  · rename_i hdir
    rw [if_pos hdir] at h'
    exact Except.ok.inj (h.symm.trans h')
  · rename_i hdir
    rw [if_neg hdir] at h'
    exact h.trans h'.symm

/-- Advice on the directory has no entry, so the entries are those of the files. -/
theorem entries_of_directory {summary : RunSummary} {events : List Event} {paths : List String}
    (h : Told (fun _ R => runDirectory fs catalog R dir) (.ok summary) events)
    (hran : Ran fs dir paths) :
    events.filterMap Event.entry? = (paths.flatMap (toldOf fs catalog)).filterMap Event.entry? := by
  by_cases hfiles : paths = []
  · subst hfiles
    obtain ⟨outcome, notes, htold, hnotes, -⟩ :=
      runDirectory_without_files fun paths hran' => hran'.unique hran
    obtain rfl : events = notes :=
      congrArg (·.2.events) (h.recording.symm.trans (htold catalog).recording)
    exact List.filterMap_eq_nil_iff.mpr fun e he => entry_of_not_line (hnotes e he)
  · obtain ⟨hdir, hfound⟩ := files_of_ran hran hfiles
    obtain ⟨outcome, htold, hends⟩ := runDirectory_told_files catalog hdir hfound hfiles
    obtain ⟨houtcome, hevents⟩ := Prod.mk.inj (h.recording.symm.trans htold.recording)
    cases hevents
    rcases hends with ⟨total, -, hwell⟩ | ⟨before, path, e, rfl, -⟩
    · rw [reachedFiles_of_well hwell]
    · cases houtcome

/-- A run that ends well has an entry for each heading and each step of its files, in order. -/
theorem entries_of_files {summary : RunSummary} {events : List Event}
    (h : Told (fun _ R => runDirectory fs catalog R dir) (.ok summary) events) :
    ∃ files : List FileRun, Ran fs dir (files.map FileRun.path) ∧ (∀ f ∈ files, f.Of fs catalog) ∧
      (events.filterMap Event.entry?).map Entry.line =
        files.flatMap fun f => f.lines.filter Line.isEntered := by
  obtain ⟨files, hran, hfiles, -⟩ := runDirectory_counts h
  refine ⟨files, hran, fun f hf => (hfiles f hf).1, ?_⟩
  rw [entries_of_directory h hran, List.filterMap_flatMap, List.flatMap_map, List.map_flatMap]
  refine List.flatMap_congr fun f hf => ?_
  have hof := (hfiles f hf).1
  exact entries_of_file (hof.outcome Recording Recording.report {}) hof.readText

/-- What the document of a run that ends well has in its three fields. -/
theorem document_of_run {summary : RunSummary} {events : List Event}
    (h : Told (fun _ R => runDirectory fs catalog R dir) (.ok summary) events) :
    let json := (Document.report.reportAll {} events).json
    json.field? "summary" = some summary.tally.json ∧
      json.lines = (events.filterMap Event.entry?).map Entry.json ∧
      json.field? "advice" =
        some (.array ((events.filterMap Event.advice?).map AdviceEntry.json)) := by
  intro json
  obtain ⟨-, -, -, -, -, htally⟩ := runDirectory_counts h
  have hcollected : json = _ := congrArg Document.json (Document.reportAll_eq {} events)
  rw [htally, hcollected]
  exact ⟨rfl, rfl, rfl⟩

/-! ## Outputs -/

theorem mapError_eq_ok {ε ε' α : Type} {f : ε → ε'} {x : Except ε α} {a : α}
    (h : x.mapError f = .ok a) : x = .ok a := by
  cases x with
  | ok b => cases h; rfl
  | error e => cases h

theorem mapError_eq_error {ε ε' α : Type} {f : ε → ε'} {x : Except ε α} {e' : ε'}
    (h : x.mapError f = .error e') : ∃ e, x = .error e := by
  cases x with
  | ok b => cases h
  | error e => exact ⟨e, rfl⟩

/-- A run that ends early does not come to its document. -/
theorem runDocument_of_error {e : RunError} {events : List Event}
    (h : Told (fun _ R => runDirectory fs catalog R dir) (.error e) events) (S : Sink ω) (out : ω) :
    runDocument S fs catalog dir out = (.error (.run dir e), out) := by
  rw [runDocument, h.run_eq]

/-- What a run writes to an output that takes everything.

Every reporter is told the same events, and the run ends the same way in both formats. If it ends
early, the output of the document is not touched, and the transcript holds what was told before,
without the closing line. If it ends well, the output holds one document, indented, with a line feed
behind it. The summary of the document is the tally of the run; its entries are the headings and the
steps of all files in order, as they were told; its advice is all advice in the order in which it
was given. Nothing about the document depends on the colour or on whether advice is shown. -/
theorem document_all_or_nothing (hS : S.Reliable good) (hout : good out) (terminal : Bool)
    (fs : FileSystem) (catalog : Catalog) (settings : Settings) :
    let dir := settings.featuresDir
    let told := runDirectory fs catalog Recording.report dir {}
    let events := told.2.events
    let document := Document.report.reportAll {} events
    let style : Console.Style := ⟨settings.colour.isOn terminal, settings.showAdvice⟩
    let json := runSettings S terminal fs catalog { settings with format := .json } out
    let console := runSettings S terminal fs catalog { settings with format := .console } out
    (∀ (ρ : Type) (R : Reporter ρ) (r : ρ),
      runDirectory fs catalog R dir r = (told.1, R.reportAll r events)) ∧
    json.1 = told.1.mapError (.run dir) ∧ console.1 = json.1 ∧
    (∀ e, json.1 = .error e → json.2 = out) ∧
    (∀ summary, json.1 = .ok summary →
      S.written json.2 = S.written out ++ (document.pretty ++ "\n").toUTF8 ∧
      (∀ v, Json.Padded Json.ValueText document.pretty.toList v ↔ v = document.json) ∧
      document.json.field? "summary" = some summary.tally.json ∧
      document.json.lines = (events.filterMap Event.entry?).map Entry.json ∧
      document.json.field? "advice" =
        some (.array ((events.filterMap Event.advice?).map AdviceEntry.json)) ∧
      ∃ files : List FileRun, Ran fs dir (files.map FileRun.path) ∧
        (∀ f ∈ files, f.Of fs catalog) ∧
        (events.filterMap Event.entry?).map Entry.line =
          files.flatMap fun f => f.lines.filter Line.isEntered) ∧
    (∀ terminal' settings', settings'.featuresDir = dir → settings'.format = .json →
      runSettings S terminal' fs catalog settings' out = json) ∧
    ∀ e, console.1 = .error e →
      S.written console.2 = S.written out ++ (Console.transcript style events).toUTF8 := by
  intro dir told events document style json console
  obtain ⟨outcome, events', htold⟩ := runDirectory_told fs catalog dir
  have hrecording : told = (outcome, ⟨events'⟩) := htold.recording
  obtain rfl : told.1 = outcome := congrArg Prod.fst hrecording
  obtain rfl : events = events' := congrArg (·.2.events) hrecording
  obtain ⟨jsonOut, hjson, hdocument⟩ :=
    runSettings_told hS hout terminal { settings with format := .json } htold
  obtain ⟨consoleOut, hconsole, htranscript⟩ :=
    runSettings_told hS hout terminal { settings with format := .console } htold
  have hends : json.1 = told.1.mapError (.run dir) := congrArg Prod.fst hjson
  have hends' : console.1 = told.1.mapError (.run dir) := congrArg Prod.fst hconsole
  refine ⟨htold.run_eq, hends, hends'.trans hends.symm, ?_, ?_, ?_, ?_⟩
  · intro e he
    obtain ⟨cause, hcause⟩ := mapError_eq_error (hends.symm.trans he)
    rw [hcause] at htold
    exact congrArg Prod.snd (runDocument_of_error htold S out)
  · intro summary hsummary
    have houtcome : told.1 = .ok summary := mapError_eq_ok (hends.symm.trans hsummary)
    rw [houtcome] at htold hdocument
    obtain ⟨hfield, hlines, hadvice⟩ := document_of_run htold
    refine ⟨?_, document.pretty_iff, hfield, hlines, hadvice, entries_of_files htold⟩
    rw [show json = _ from hjson]
    exact hdocument.written
  · intro terminal' settings' hdir hformat
    simp only [json, runSettings, hformat, hdir]
    rfl
  · intro e he
    obtain ⟨cause, hcause⟩ := mapError_eq_error (hends'.symm.trans he)
    rw [hcause] at htranscript
    rw [show console = _ from hconsole]
    exact htranscript.written

/-- Behind a first file, one that opens with a conjunction keeps the document from being written,
and leaves the line of the first one in the transcript. One that runs well is in the document. -/
theorem document_all_or_nothing_pair :
    let run (second : String) (format : ReportFormat) :=
      runSettings Pipe.sink false (.pair "Given a\n" second) .empty { format } {}
    (run "And b\n" .json).2 = {} ∧
      (run "And b\n" .console).2.bytes =
        (Console.pad "Given a" ++ " # features/a.feature : 1\n").toUTF8 ∧
      ∃ document : Document,
        (run "When b\n" .json).2.bytes = (document.pretty ++ "\n").toUTF8 ∧
        document.json.lines.map Json.status? = [some "missing", some "missing"] := by
  intro run
  have hout : ({} : Pipe).lineLimit = none ∧ ({} : Pipe).flushError = none := ⟨rfl, rfl⟩
  have hwrites := fun second => document_all_or_nothing Pipe.sink_reliable hout false
    (.pair "Given a\n" second) .empty {}
  have hempty : ∀ bytes : ByteArray, Pipe.sink.written {} ++ bytes = bytes :=
    fun bytes => ByteArray.empty_append
  obtain ⟨-, hends, hsame, hnothing, -, -, htranscript⟩ := hwrites "And b\n"
  obtain ⟨-, hends', -, -, hdocument, -, -⟩ := hwrites "When b\n"
  have hstopped : (runDirectory (.pair "Given a\n" "And b\n") .empty Recording.report "features"
      {}).1 = .error (.script (.danglingConjunction .and ⟨"And b", 1, "features/b.feature"⟩)) := by
    rw [runDirectory_pair]
    decide +kernel
  have hwell : (runDirectory (.pair "Given a\n" "When b\n") .empty Recording.report "features"
      {}).1 = .ok { files := 2, tally := { missing := 2 } } := by
    rw [runDirectory_pair]
    decide +kernel
  rw [hstopped] at hends
  rw [hwell] at hends'
  obtain ⟨hwritten, -, -, hlines, -⟩ := hdocument _ hends'
  refine ⟨hnothing _ hends, ?_, _, hwritten.trans (hempty _), ?_⟩
  · refine (htranscript _ (hsame.trans hends)).trans ((hempty _).trans (congrArg String.toUTF8 ?_))
    rw [runDirectory_pair]
    decide +kernel
  · rw [hlines, runDirectory_pair]
    decide +kernel

end FeatureScript
