import FeatureScript.Advice.Basic
import FeatureScript.Advice.Log
import FeatureScript.Advice.Template
import FeatureScript.CommandLine
import FeatureScript.Files.FileSystem
import FeatureScript.Files.Path
import FeatureScript.Files.Tree
import FeatureScript.Keyword
import FeatureScript.Line
import FeatureScript.Main
import FeatureScript.Pattern.Basic
import FeatureScript.Pattern.CharClass
import FeatureScript.Pattern.CharSet
import FeatureScript.Pattern.Escape
import FeatureScript.Pattern.Expr
import FeatureScript.Pattern.Fault
import FeatureScript.Pattern.Footprint.Basic
import FeatureScript.Pattern.Footprint.Class
import FeatureScript.Pattern.Footprint.Program
import FeatureScript.Pattern.Footprint.Sharing
import FeatureScript.Pattern.Footprint.Trie
import FeatureScript.Pattern.Piece
import FeatureScript.Pattern.Program
import FeatureScript.Pattern.Reader
import FeatureScript.Pattern.Regex
import FeatureScript.Pattern.Search
import FeatureScript.Report.Console
import FeatureScript.Report.Document
import FeatureScript.Report.Event
import FeatureScript.Report.Json
import FeatureScript.Report.Sink
import FeatureScript.Report.Tally
import FeatureScript.Report.Writer
import FeatureScript.Run.Catalog
import FeatureScript.Run.Directory
import FeatureScript.Run.Discover
import FeatureScript.Run.Error
import FeatureScript.Run.Feature
import FeatureScript.Run.Helper
import FeatureScript.Run.Program
import FeatureScript.Script.Executor
import FeatureScript.Script.Interpreter
import FeatureScript.Script.Lifecycle
import FeatureScript.Settings
import FeatureScript.Step.Asserter
import FeatureScript.Step.Context
import FeatureScript.Step.Dispatch
import FeatureScript.Step.Error
import FeatureScript.Step.Handler
import FeatureScript.Step.Reading
import FeatureScript.Step.Registry
import FeatureScript.Step.Result
import FeatureScript.Text.Lines
import FeatureScript.Text.Literal
import FeatureScript.Text.Split
import FeatureScript.Text.Trim
import FeatureScript.Text.Utf8
import FeatureScript.Unicode.Blank
import FeatureScript.Unicode.Case
import FeatureScript.Unicode.Letter
import FeatureScript.Unicode.Ranges
import FeatureScript.Unicode.Visible
import FeatureScript.Unicode.Word
import FeatureScript.World.Counter
import FeatureScript.World.Lamp
import FeatureScript.Proofs.Script.Calls
import FeatureScript.Proofs.Script.Plan
import FeatureScript.Proofs.Script.Bracket
import FeatureScript.Proofs.Script.Progress
import FeatureScript.Proofs.Script.Transcript
import FeatureScript.Proofs.Script.Conjunction
import FeatureScript.Proofs.Script.Simulation
import FeatureScript.Proofs.Script.Join
import FeatureScript.Proofs.Script.Reuse
import FeatureScript.Proofs.Step.Dispatch
import FeatureScript.Proofs.Report.Log
import FeatureScript.Proofs.Run.Advice
import FeatureScript.Proofs.Pattern.Search
import FeatureScript.Proofs.Pattern.Literal
import FeatureScript.Proofs.Grammar.Payload
import FeatureScript.Proofs.Advice.Cure
import FeatureScript.Proofs.Report.Document
import FeatureScript.Proofs.Run.Events
import FeatureScript.Proofs.Run.Totals
import FeatureScript.Proofs.Report.Written
import FeatureScript.Proofs.Run.Exit
import FeatureScript.Proofs.Json.Grammar
import FeatureScript.Proofs.Json.Reader
import FeatureScript.Proofs.Json.Layout
import FeatureScript.Proofs.Report.Decode
import FeatureScript.Proofs.Grammar.Forms
import FeatureScript.Proofs.Pattern.Preference
import FeatureScript.Proofs.Pattern.Backtrack
import FeatureScript.Proofs.Pattern.Greedy
import FeatureScript.Proofs.Unicode.Case
import FeatureScript.Proofs.Grammar.Patterns
import FeatureScript.Proofs.Grammar.Captures
import FeatureScript.Proofs.Grammar.Classify
import FeatureScript.Proofs.Run.Composition
import FeatureScript.Proofs.Run.DryRun
import FeatureScript.Proofs.Script.Narrative
import FeatureScript.Proofs.Script.Pairing
import FeatureScript.Proofs.Step.Precedence
import FeatureScript.Proofs.Run.Failure
import FeatureScript.Proofs.Report.Broken
import FeatureScript.Proofs.Report.Colour
import FeatureScript.Proofs.Pattern.Exact
import FeatureScript.Proofs.Grammar.Bare
import FeatureScript.Proofs.Run.Settings
import FeatureScript.Proofs.Run.Flags
import FeatureScript.Proofs.Run.Output
import FeatureScript.Proofs.Text.Split
import FeatureScript.Proofs.Files.Path
import FeatureScript.Proofs.Run.Discovery
import FeatureScript.Proofs.Unicode.Identifier
import FeatureScript.Proofs.Advice.Provider
import FeatureScript.Proofs.Script.LineEnds
import FeatureScript.Proofs.Step.Registration
import FeatureScript.Proofs.Advice.RawLiteral
import FeatureScript.Proofs.Pattern.Capture
import FeatureScript.Proofs.Text.Runs
import FeatureScript.Proofs.Advice.HandlerName
