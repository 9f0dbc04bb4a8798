import FeatureScript.CommandLine
import FeatureScript.Report.Console
import FeatureScript.Report.Document
import FeatureScript.Run.Directory

/-!
# FeatureScript.Run.Program

The whole program, from its arguments and its environment to its report and its exit status.

The transcript is written while the files are run, and ends with the tally if no file failed to run.
The document is written at the end, and only if no file failed to run.
-/

namespace FeatureScript

/-- What ends the program early. -/
inductive ProgramError where
  | run (dir : String) (cause : RunError)
  /-- The report of a kind cannot be written. -/
  | write (report : String) (cause : WriteError)
  | flush (report : String) (cause : WriteError)
  deriving DecidableEq, Repr

/-- The text of an error followed by those of its causes. -/
def ProgramError.message : ProgramError → String
  | .run dir cause => ": ".intercalate (("failed to run features in " ++ dir) :: cause.chain)
  | .write report cause => "failed to write the " ++ report ++ " report: " ++ cause.message
  | .flush report cause => "failed to flush the " ++ report ++ " report: " ++ cause.message

variable {ω : Type}

/-- Runs the features and writes the transcript meanwhile. An error in writing comes before one in
running. -/
def runConsole (S : Sink ω) (style : Console.Style) (fs : FileSystem) (catalog : Catalog)
    (dir : String) (out : ω) : Except ProgramError RunSummary × ω :=
  let (outcome, console) :=
    runDirectory fs catalog (Console.report S style) dir ({ sink := out } : Console ω)
  let console := match outcome with
    | .ok summary => console.summary S style summary.tally
    | .error _ => console
  match console.finish S with
  | (.error e, out) => (.error (.write "console" e), out)
  | (.ok (), out) => (outcome.mapError (.run dir), out)

/-- Runs the features and then writes the document, a line at a time. -/
def runDocument (S : Sink ω) (fs : FileSystem) (catalog : Catalog) (dir : String) (out : ω) :
    Except ProgramError RunSummary × ω :=
  match runDirectory fs catalog Document.report dir {} with
  | (.error e, _) => (.error (.run dir e), out)
  | (.ok summary, document) =>
    match S.writeAll out document.lines with
    | (.error e, out) => (.error (.write "JSON" e), out)
    | (.ok (), out) =>
      match S.flush out with
      | (.error e, out) => (.error (.flush "JSON" e), out)
      | (.ok (), out) => (.ok summary, out)

/-- Runs the features of the directory in the settings and writes the report. -/
def runSettings (S : Sink ω) (terminal : Bool) (fs : FileSystem) (catalog : Catalog)
    (settings : Settings) (out : ω) : Except ProgramError RunSummary × ω :=
  match settings.format with
  | .console =>
    let style := { colour := settings.colour.isOn terminal, advise := settings.showAdvice }
    runConsole S style fs catalog settings.featuresDir out
  | .json => runDocument S fs catalog settings.featuresDir out

/-! ## Exit status -/

/-- How the program ends. -/
inductive Exit where
  /-- No step failed, or there was nothing to run. -/
  | success
  /-- A step failed, or the run ended early. -/
  | failure
  /-- The arguments or the environment are wrong. -/
  | misuse
  deriving DecidableEq, Repr

def Exit.code : Exit → Nat
  | .success => 0
  | .failure => 1
  | .misuse => 2

def CommandLine.Halt.exit : CommandLine.Halt → Exit
  | .help | .version => .success
  | _ => .misuse

def exitOf : Except ProgramError RunSummary → Exit
  | .ok summary => if summary.isSuccess then .success else .failure
  | .error _ => .failure

/-- What is printed in place of a run. -/
def usage : String :=
  "\n".intercalate
    ["Command line runner for plainbdd feature files",
      "",
      "Usage: plainbdd [OPTIONS]",
      "",
      "Options:",
      "      --features-dir <DIR>  Directory holding the `.feature` files " ++
        "[env: PLAINBDD_FEATURES_DIR]",
      "      --advise              Print advice and registration templates after each file",
      "      --color <WHEN>        Colour mode: auto, always or never [env: PLAINBDD_COLOR]",
      "      --format <FORMAT>     Report format: console or json [env: PLAINBDD_FORMAT]",
      "      --log-level <LEVEL>   Log level: trace, debug, info, warn or error " ++
        "[env: PLAINBDD_LOG_LEVEL]",
      "  -h, --help                Print help",
      "  -V, --version             Print version",
      ""]

def versionLine : String := "plainbdd 0.1.0\n"

/-- The text that answers a request for help or for the version. -/
def CommandLine.Halt.answer : CommandLine.Halt → String
  | .help => usage
  | .version => versionLine
  | _ => ""

/-- Why the program did not run to its end. -/
inductive Trouble where
  | arguments (cause : CommandLine.Halt)
  | settings (cause : SettingsError)
  | run (cause : ProgramError)
  deriving DecidableEq, Repr

def CommandLine.Halt.trouble? : CommandLine.Halt → Option Trouble
  | .help | .version => none
  | halt => some (.arguments halt)

def Trouble.message : Trouble → String
  | .arguments _ => "invalid arguments; `plainbdd --help` lists the options"
  | .settings cause => cause.message
  | .run cause => cause.message

/-- The program: its exit status, what went wrong, and its output. -/
def runProgram (S : Sink ω) (terminal : Bool) (fs : FileSystem) (catalog : Catalog)
    (env : Environment) (arguments : List String) (out : ω) : Exit × Option Trouble × ω :=
  match CommandLine.read arguments with
  | .error halt => (halt.exit, halt.trouble?, (S.write out halt.answer.toUTF8).2)
  | .ok flags =>
    match Settings.load env flags with
    | .error e => (.misuse, some (.settings e), out)
    | .ok settings =>
      match runSettings S terminal fs catalog settings out with
      | (.ok summary, out) => (exitOf (.ok summary), none, out)
      | (.error e, out) => (.failure, some (.run e), out)

end FeatureScript
