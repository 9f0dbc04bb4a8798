import FeatureScript.Proofs.Report.Log
import FeatureScript.Report.Document

/-!
# FeatureScript.Proofs.Report.Document

What a document holds after the events of a run, and what its JSON value says.

A document keeps the tally of the events, an entry for each heading and each step, and the advice,
all in the order of the events (`Document.reportAll_eq`). The entries of its JSON value name their
status, and there are as many of each status as the tally counts (`tally_eq_countStatus`).
-/

namespace FeatureScript

/-! ## Collecting -/

/-- What a document keeps of an event. -/
def Event.entry? : Event → Option Entry
  | .feature line label => some ⟨line.source, line.number, line.text, .feature label⟩
  | .scenario line label => some ⟨line.source, line.number, line.text, .scenario label⟩
  | .step line result => some ⟨line.source, line.number, line.text, .step result⟩
  | .text _ | .advice _ _ => none

def Event.advice? : Event → Option AdviceEntry
  | .advice source message => some ⟨source, message⟩
  | .feature _ _ | .scenario _ _ | .text _ | .step _ _ => none

theorem Document.report_eq (d : Document) (e : Event) :
    Document.report d e =
      { tally := d.tally.report e
        entries := d.entries ++ e.entry?.toList
        advice := d.advice ++ e.advice?.toList } := by
  cases e <;> simp [report, push, Event.entry?, Event.advice?]

theorem Document.reportAll_eq (d : Document) (events : List Event) :
    Document.report.reportAll d events =
      { tally := Tally.report.reportAll d.tally events
        entries := d.entries ++ events.filterMap Event.entry?
        advice := d.advice ++ events.filterMap Event.advice? } := by
  induction events generalizing d with
  | nil => simp [Reporter.reportAll]
  | cons e rest ih =>
    refine (ih _).trans ?_
    simp only [report_eq, Reporter.reportAll, List.foldl_cons, List.filterMap_cons]
    cases e.entry? <;> cases e.advice? <;> simp

/-! ## Looking into JSON values -/

namespace Json

/-- The value of a field of an object. -/
def field? (v : Json) (key : String) : Option Json :=
  match v with
  | object fields => fields.lookup key
  | _ => none

def items? : Json → Option (List Json)
  | array items => some items
  | _ => none

def text? : Json → Option String
  | string s => some s
  | _ => none

def number? : Json → Option Nat
  | number n => some n
  | _ => none

/-- The status that an entry names. -/
def status? (v : Json) : Option String := (v.field? "status").bind text?

/-- The entries of a document. -/
def lines (v : Json) : List Json := ((v.field? "lines").bind items?).getD []

/-- The number of entries of a document that have a status. -/
def countStatus (v : Json) (status : String) : Nat :=
  v.lines.countP fun line => line.status? = some status

end Json

theorem Entry.json_status (e : Entry) : e.json.status? = some e.kind.status := rfl

theorem Document.json_lines (d : Document) : d.json.lines = d.entries.map Entry.json := rfl

/-- The status of the entry that is kept of an event. -/
def Event.status? (e : Event) : Option String := e.entry?.map fun entry => entry.kind.status

theorem countStatus_reportAll (events : List Event) (status : String) :
    (Document.report.reportAll {} events).json.countStatus status =
      events.countP fun e => e.status? = some status := by
  rw [Json.countStatus, Document.json_lines, Document.reportAll_eq, List.countP_map]
  simp only [List.nil_append, List.countP_filterMap, Function.comp_def, Entry.json_status,
    Option.some.injEq]
  refine List.countP_congr fun e _ => ?_
  unfold Event.status?
  cases e.entry? <;> simp

/-- The tally of a document counts its entries by their status. -/
theorem tally_eq_countStatus (events : List Event) :
    let document := Document.report.reportAll {} events
    document.tally =
      { scenarios := document.json.countStatus "scenario"
        passed := document.json.countStatus "passed"
        failed := document.json.countStatus "failed"
        missing := document.json.countStatus "missing"
        noAssertions := document.json.countStatus "no_assertions" } := by
  intro document
  have hkinds : ∀ e : Event, e.isScenario = decide (e.status? = some "scenario") ∧
      e.isPassed = decide (e.status? = some "passed") ∧
      e.isFailed = decide (e.status? = some "failed") ∧
      e.isMissing = decide (e.status? = some "missing") ∧
      e.isSilent = decide (e.status? = some "no_assertions") := by
    intro e
    cases e with
    | step line result => cases result <;> exact ⟨rfl, rfl, rfl, rfl, rfl⟩
    | _ => exact ⟨rfl, rfl, rfl, rfl, rfl⟩
  have htally : document.tally = Tally.report.reportAll {} events := by
    rw [show document = _ from Document.reportAll_eq {} events]
  have hcount : ∀ status, document.json.countStatus status =
      events.countP fun e => e.status? = some status := countStatus_reportAll events
  simp only [htally, Tally.reportAll_eq, hcount, Nat.zero_add]
  congr 1 <;> exact List.countP_congr fun e _ => by simp [hkinds e]

end FeatureScript
