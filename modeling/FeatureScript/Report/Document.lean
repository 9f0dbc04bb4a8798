import FeatureScript.Report.Json
import FeatureScript.Report.Tally
import FeatureScript.Text.Split

/-!
# FeatureScript.Report.Document

The report of a run as one JSON document: the tally, the headings and steps in order, and the advice
in order. Plain text is left out, and so is the output of a step that wrote nothing.
-/

namespace FeatureScript

/-- What a document keeps of a heading or a step. -/
inductive EntryKind where
  | feature (label : String)
  | scenario (label : String)
  | step (result : StepResult)
  deriving DecidableEq, Repr

structure Entry where
  source : String
  number : Nat
  text : String
  kind : EntryKind
  deriving DecidableEq, Repr

structure AdviceEntry where
  source : String
  message : String
  deriving DecidableEq, Repr

/-- What has been collected for the document. -/
structure Document where
  tally : Tally := {}
  entries : List Entry := []
  advice : List AdviceEntry := []
  deriving DecidableEq, Repr, Inhabited

namespace Document

def push (d : Document) (line : Line) (kind : EntryKind) : Document :=
  { d with entries := d.entries ++ [⟨line.source, line.number, line.text, kind⟩] }

def report : Reporter Document := fun d e =>
  let d := { d with tally := d.tally.report e }
  match e with
  | .feature line label => d.push line (.feature label)
  | .scenario line label => d.push line (.scenario label)
  | .text _ => d
  | .step line result => d.push line (.step result)
  | .advice source message => { d with advice := d.advice ++ [⟨source, message⟩] }

end Document

/-! ## The document as a JSON value -/

def EntryKind.status : EntryKind → String
  | .feature _ => "feature"
  | .scenario _ => "scenario"
  | .step result => result.label

/-- The output of a step; none if it is empty. -/
def outputFields (output : String) : List (String × Json) :=
  if output.isEmpty then [] else [("output", .string output)]

def FailureDetail.json : FailureDetail → Json
  | .assertions messages =>
    .object [("kind", .string "assertions"), ("messages", .array (messages.map .string))]
  | .error message => .object [("kind", .string "error"), ("message", .string message)]

/-- The fields that go with a status. -/
def EntryKind.fields : EntryKind → List (String × Json)
  | .feature label | .scenario label => [("label", .string label)]
  | .step (.pass output) | .step (.noAssertions output) => outputFields output
  | .step (.fail output detail) => outputFields output ++ [("failure", detail.json)]
  | .step (.missing keyword) => [("keyword", .string keyword.name)]

def Entry.json (e : Entry) : Json :=
  .object ([("source", .string e.source), ("line", .number e.number), ("text", .string e.text),
    ("status", .string e.kind.status)] ++ e.kind.fields)

def AdviceEntry.json (a : AdviceEntry) : Json :=
  .object [("source", .string a.source), ("message", .string a.message)]

def Tally.json (t : Tally) : Json :=
  .object [("scenarios", .number t.scenarios), ("passed", .number t.passed),
    ("failed", .number t.failed), ("missing", .number t.missing),
    ("no_assertions", .number t.noAssertions)]

namespace Document

def json (d : Document) : Json :=
  .object [("summary", d.tally.json), ("lines", .array (d.entries.map Entry.json)),
    ("advice", .array (d.advice.map AdviceEntry.json))]

/-- The document on one line. -/
def compact (d : Document) : String := String.ofList d.json.compact

/-- The document with indentation. -/
def pretty (d : Document) : String := String.ofList (d.json.pretty 0)

/-- The lines of the document with indentation, each with its end. -/
def lines (d : Document) : List String :=
  (Text.split '\n' (d.json.pretty 0)).map fun line => String.ofList (line ++ ['\n'])

end Document
end FeatureScript
