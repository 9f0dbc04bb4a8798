import FeatureScript.Proofs.Json.Layout
import FeatureScript.Proofs.Json.Reader
import FeatureScript.Proofs.Report.Document

/-!
# FeatureScript.Proofs.Report.Decode

A document can be read back from either of its texts.

`Document.ofJson?` reads a document off a JSON value; it gets back what was written
(`Document.ofJson?_json`). Both texts of a document are texts of its value and of no other, so
documents that differ have different texts.
-/

namespace FeatureScript

/-! ## Reading values -/

namespace Json

def textAt? (v : Json) (key : String) : Option String := (v.field? key).bind text?

def numberAt? (v : Json) (key : String) : Option Nat := (v.field? key).bind number?

def itemsAt? (v : Json) (key : String) : Option (List Json) := (v.field? key).bind items?

end Json

def Tally.ofJson? (v : Json) : Option Tally := do
  let scenarios ← v.numberAt? "scenarios"
  let passed ← v.numberAt? "passed"
  let failed ← v.numberAt? "failed"
  let missing ← v.numberAt? "missing"
  let noAssertions ← v.numberAt? "no_assertions"
  return { scenarios, passed, failed, missing, noAssertions }

/-- The output of a step; it is empty if none is written. -/
def readOutput? (v : Json) : Option String :=
  match v.field? "output" with
  | none => some ""
  | some output => output.text?

def FailureDetail.ofJson? (v : Json) : Option FailureDetail :=
  match v.textAt? "kind" with
  | some "assertions" => ((v.itemsAt? "messages").bind (List.mapM Json.text?)).map .assertions
  | some "error" => (v.textAt? "message").map .error
  | _ => none

def Keyword.ofName? (name : String) : Option Keyword := Keyword.all.find? fun k => k.name = name

def EntryKind.ofJson? (v : Json) : Option EntryKind :=
  match v.status? with
  | some "feature" => (v.textAt? "label").map .feature
  | some "scenario" => (v.textAt? "label").map .scenario
  | some "passed" => (readOutput? v).map fun output => .step (.pass output)
  | some "failed" => do
    let output ← readOutput? v
    let detail ← (v.field? "failure").bind FailureDetail.ofJson?
    return .step (.fail output detail)
  | some "missing" =>
    ((v.textAt? "keyword").bind Keyword.ofName?).map fun keyword => .step (.missing keyword)
  | some "no_assertions" => (readOutput? v).map fun output => .step (.noAssertions output)
  | _ => none

def Entry.ofJson? (v : Json) : Option Entry := do
  let source ← v.textAt? "source"
  let number ← v.numberAt? "line"
  let text ← v.textAt? "text"
  let kind ← EntryKind.ofJson? v
  return { source, number, text, kind }

def AdviceEntry.ofJson? (v : Json) : Option AdviceEntry := do
  let source ← v.textAt? "source"
  let message ← v.textAt? "message"
  return { source, message }

def Document.ofJson? (v : Json) : Option Document := do
  let tally ← (v.field? "summary").bind Tally.ofJson?
  let entries ← (v.itemsAt? "lines").bind (List.mapM Entry.ofJson?)
  let advice ← (v.itemsAt? "advice").bind (List.mapM AdviceEntry.ofJson?)
  return { tally, entries, advice }

/-! ## What is written is read back -/

theorem mapM_map_some {α β : Type} (encode : α → β) (decode : β → Option α)
    (h : ∀ a, decode (encode a) = some a) (as : List α) :
    (as.map encode).mapM decode = some as := by
  induction as with
  | nil => rfl
  | cons a as ih => simp [h, ih]

theorem Tally.ofJson?_json (t : Tally) : Tally.ofJson? t.json = some t := rfl

theorem FailureDetail.ofJson?_json (detail : FailureDetail) :
    FailureDetail.ofJson? detail.json = some detail := by
  cases detail with
  | assertions messages =>
    have hmessages : (messages.map Json.string).mapM Json.text? = some messages :=
      mapM_map_some Json.string Json.text? (fun _ => rfl) messages
    exact congrArg (Option.map FailureDetail.assertions) hmessages
  | error message => rfl

theorem Keyword.ofName?_name (k : Keyword) : Keyword.ofName? k.name = some k := by
  cases k <;> rfl

theorem outputFields_eq (output : String) :
    outputFields output = [] ∧ output = "" ∨
      outputFields output = [("output", .string output)] := by
  by_cases hempty : output = ""
  · subst hempty
    exact .inl ⟨rfl, rfl⟩
  · exact .inr (if_neg (by rwa [String.isEmpty_iff]))

/-- The output is read back if no field but its own has its key. -/
theorem readOutput?_json (e : Entry) (output : String) (rest : List (String × Json))
    (hfields : e.kind.fields = outputFields output ++ rest)
    (hrest : rest.lookup "output" = none) : readOutput? e.json = some output := by
  have hfield : e.json.field? "output" = e.kind.fields.lookup "output" := rfl
  rw [readOutput?, hfield, hfields]
  rcases outputFields_eq output with ⟨hnone, rfl⟩ | hsome
  · rw [hnone, List.nil_append, hrest]
  · rw [hsome]
    rfl

theorem EntryKind.ofJson?_json (e : Entry) : EntryKind.ofJson? e.json = some e.kind := by
  obtain ⟨source, number, text, kind⟩ := e
  let e : Entry := ⟨source, number, text, kind⟩
  cases kind with
  | feature label => rfl
  | scenario label => rfl
  | step result =>
    cases result with
    | pass output =>
      have houtput := readOutput?_json e output [] (List.append_nil _).symm rfl
      exact congrArg (Option.map fun output => EntryKind.step (.pass output)) houtput
    | fail output detail =>
      have houtput := readOutput?_json e output [("failure", detail.json)] rfl rfl
      have hdetail : e.json.field? "failure" = some detail.json := by
        show (outputFields output ++ [("failure", detail.json)]).lookup "failure" = _
        rcases outputFields_eq output with ⟨h, -⟩ | h <;> rw [h] <;> rfl
      show (do
        let output ← readOutput? e.json
        let detail ← (e.json.field? "failure").bind FailureDetail.ofJson?
        return EntryKind.step (.fail output detail)) = _
      rw [houtput, hdetail]
      show (do
        let detail ← FailureDetail.ofJson? detail.json
        return EntryKind.step (.fail output detail)) = _
      rw [detail.ofJson?_json]
      rfl
    | missing keyword =>
      have hname := Keyword.ofName?_name keyword
      exact congrArg (Option.map fun keyword => EntryKind.step (.missing keyword)) hname
    | noAssertions output =>
      have houtput := readOutput?_json e output [] (List.append_nil _).symm rfl
      exact congrArg (Option.map fun output => EntryKind.step (.noAssertions output)) houtput

theorem Entry.ofJson?_json (e : Entry) : Entry.ofJson? e.json = some e := by
  show (do
    let kind ← EntryKind.ofJson? e.json
    return (⟨e.source, e.number, e.text, kind⟩ : Entry)) = _
  rw [EntryKind.ofJson?_json]
  rfl

theorem AdviceEntry.ofJson?_json (a : AdviceEntry) : AdviceEntry.ofJson? a.json = some a := rfl

/-- A document is read back from its value. -/
theorem Document.ofJson?_json (d : Document) : Document.ofJson? d.json = some d := by
  have hentries := mapM_map_some _ _ Entry.ofJson?_json d.entries
  have hadvice := mapM_map_some _ _ AdviceEntry.ofJson?_json d.advice
  show (do
    let entries ← (d.entries.map Entry.json).mapM Entry.ofJson?
    let advice ← (d.advice.map AdviceEntry.json).mapM AdviceEntry.ofJson?
    return ({ tally := d.tally, entries, advice } : Document)) = _
  rw [hentries, hadvice]
  rfl

/-! ## Keys -/

namespace Json

/-- No object in the value has a key twice. -/
inductive DistinctKeys : Json → Prop
  | number (n : Nat) : DistinctKeys (.number n)
  | string (s : String) : DistinctKeys (.string s)
  | array {items : List Json} (h : ∀ v ∈ items, DistinctKeys v) : DistinctKeys (.array items)
  | object {fields : List (String × Json)} (hkeys : (fields.map Prod.fst).Nodup)
      (h : ∀ f ∈ fields, DistinctKeys f.2) : DistinctKeys (.object fields)

attribute [simp] DistinctKeys.number DistinctKeys.string

@[simp] theorem distinctKeys_array {items : List Json} :
    DistinctKeys (.array items) ↔ ∀ v ∈ items, DistinctKeys v :=
  ⟨fun h => by cases h; assumption, .array⟩

@[simp] theorem distinctKeys_object {fields : List (String × Json)} :
    DistinctKeys (.object fields) ↔
      (fields.map Prod.fst).Nodup ∧ ∀ f ∈ fields, DistinctKeys f.2 :=
  ⟨fun h => by cases h; exact ⟨‹_›, ‹_›⟩, fun h => .object h.1 h.2⟩

end Json

theorem FailureDetail.json_distinctKeys (detail : FailureDetail) : detail.json.DistinctKeys := by
  cases detail <;> simp [json]

theorem Entry.json_distinctKeys (e : Entry) : e.json.DistinctKeys := by
  obtain ⟨source, number, text, kind⟩ := e
  cases kind with
  | feature label => simp [json, EntryKind.fields]
  | scenario label => simp [json, EntryKind.fields]
  | step result =>
    cases result with
    | pass output =>
      rcases outputFields_eq output with ⟨h, -⟩ | h <;> simp [json, EntryKind.fields, h]
    | fail output detail =>
      rcases outputFields_eq output with ⟨h, -⟩ | h <;>
        simp [json, EntryKind.fields, h, detail.json_distinctKeys]
    | missing keyword => simp [json, EntryKind.fields]
    | noAssertions output =>
      rcases outputFields_eq output with ⟨h, -⟩ | h <;> simp [json, EntryKind.fields, h]

theorem Document.json_distinctKeys (d : Document) : d.json.DistinctKeys := by
  simp [json, Tally.json, AdviceEntry.json, Entry.json_distinctKeys]

/-! ## Texts -/

theorem Document.compact_iff (d : Document) (v : Json) :
    Json.Padded Json.ValueText d.compact.toList v ↔ v = d.json := by
  have htext : Json.Padded Json.ValueText d.compact.toList d.json := by
    rw [compact, String.toList_ofList]
    exact .bare (Json.compact_text d.json)
  exact ⟨fun h => h.unique htext, by rintro rfl; exact htext⟩

theorem Document.pretty_iff (d : Document) (v : Json) :
    Json.Padded Json.ValueText d.pretty.toList v ↔ v = d.json := by
  have htext : Json.Padded Json.ValueText d.pretty.toList d.json := by
    rw [pretty, String.toList_ofList]
    exact .bare (Json.pretty_text 0 d.json)
  exact ⟨fun h => h.unique htext, by rintro rfl; exact htext⟩

/-- The value of a document determines it. -/
theorem Document.json_injective : Function.Injective Document.json := fun d d' h =>
  Option.some.inj (by rw [← ofJson?_json d, ← ofJson?_json d', h])

/-- A document of some events loses nothing that it keeps of them.

It keeps the tally, an entry for each heading and each step, and the advice, in order. Both its
texts are JSON, of the same value and no other, and the document is read back from this value.
Documents that differ have different texts in either layout. No object has a key twice, and the
status of an entry of a step is the label of its result. -/
theorem document_loses_nothing (events : List Event) :
    let d := Document.report.reportAll {} events
    d = { tally := Tally.report.reportAll {} events
          entries := events.filterMap Event.entry?
          advice := events.filterMap Event.advice? } ∧
    (∀ v, Json.Padded Json.ValueText d.compact.toList v ↔ v = d.json) ∧
    (∀ v, Json.Padded Json.ValueText d.pretty.toList v ↔ v = d.json) ∧
    Json.parse d.compact = some d.json ∧ Json.parse d.pretty = some d.json ∧
    Document.ofJson? d.json = some d ∧
    (∀ events', let d' := Document.report.reportAll {} events'
      d ≠ d' → d.compact ≠ d'.compact ∧ d.pretty ≠ d'.pretty) ∧
    d.json.DistinctKeys ∧
    d.json.lines = d.entries.map Entry.json ∧
    ∀ e ∈ d.entries, ∀ result, e.kind = .step result → e.json.status? = some result.label := by
  intro d
  have hcompact := Json.parse_iff.mpr ((d.compact_iff d.json).mpr rfl)
  have hpretty := Json.parse_iff.mpr ((d.pretty_iff d.json).mpr rfl)
  refine ⟨?_, d.compact_iff, d.pretty_iff, hcompact, hpretty, d.ofJson?_json, ?_,
    d.json_distinctKeys, d.json_lines, ?_⟩
  · exact (Document.reportAll_eq {} events).trans (by simp)
  · intro events' d' hne
    refine ⟨fun h => hne (Document.json_injective ?_), fun h => hne (Document.json_injective ?_)⟩
    · exact (d'.compact_iff d.json).mp (h ▸ (d.compact_iff d.json).mpr rfl)
    · exact (d'.pretty_iff d.json).mp (h ▸ (d.pretty_iff d.json).mpr rfl)
  · intro e _ result hkind
    rw [e.json_status, hkind]
    rfl

end FeatureScript
