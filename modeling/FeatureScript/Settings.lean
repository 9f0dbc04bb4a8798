import FeatureScript.Text.Trim
import FeatureScript.Unicode.Case

/-!
# FeatureScript.Settings

The settings of a run. Each has a value of its own from the first of three sources that gives one:
the command line, the environment, the default.

Names of values are read in any case. A directory given by the environment counts unless it is
blank.
-/

namespace FeatureScript

/-- How much is logged. -/
inductive LogLevel where
  | trace
  | debug
  | info
  | warn
  | error
  deriving DecidableEq, Repr

/-- When the transcript is coloured. -/
inductive ColourMode where
  /-- On a terminal only. -/
  | auto
  | always
  | never
  deriving DecidableEq, Repr

/-- What kind of report is written. -/
inductive ReportFormat where
  | console
  | json
  deriving DecidableEq, Repr

/-- A value that a setting does not have. -/
structure SettingsError where
  problem : String
  deriving DecidableEq, Repr

def SettingsError.message (e : SettingsError) : String := "invalid configuration: " ++ e.problem

/-- The first value whose name is the text in small letters. -/
def readNamed {α : Type} (what expected : String) (values : List (String × α)) (text : String) :
    Except SettingsError α :=
  match values.lookup (Unicode.lowercase text) with
  | some value => .ok value
  | none => .error ⟨"unknown " ++ what ++ " '" ++ text ++ "', expected one of: " ++ expected⟩

def LogLevel.name : LogLevel → String
  | .trace => "trace"
  | .debug => "debug"
  | .info => "info"
  | .warn => "warn"
  | .error => "error"

def LogLevel.read : String → Except SettingsError LogLevel :=
  readNamed "log level" "trace, debug, info, warn, error"
    [("trace", .trace), ("debug", .debug), ("info", .info), ("warn", .warn), ("warning", .warn),
      ("error", .error)]

def ColourMode.read : String → Except SettingsError ColourMode :=
  readNamed "colour mode" "auto, always, never"
    [("auto", .auto), ("always", .always), ("never", .never)]

/-- Whether a transcript is coloured that goes to a terminal, or to something else. -/
def ColourMode.isOn (mode : ColourMode) (terminal : Bool) : Bool :=
  match mode with
  | .auto => terminal
  | .always => true
  | .never => false

def ReportFormat.read : String → Except SettingsError ReportFormat :=
  readNamed "output format" "console, json" [("console", .console), ("json", .json)]

structure Settings where
  featuresDir : String := "features"
  showAdvice : Bool := false
  colour : ColourMode := .auto
  format : ReportFormat := .console
  logLevel : LogLevel := .warn
  deriving DecidableEq, Repr, Inhabited

/-- Settings of which some are given. -/
structure Overrides where
  featuresDir : Option String := none
  showAdvice : Option Bool := none
  colour : Option ColourMode := none
  format : Option ReportFormat := none
  logLevel : Option LogLevel := none
  deriving DecidableEq, Repr, Inhabited

/-- The settings with the given ones in their places. -/
def Settings.override (s : Settings) (o : Overrides) : Settings where
  featuresDir := o.featuresDir.getD s.featuresDir
  showAdvice := o.showAdvice.getD s.showAdvice
  colour := o.colour.getD s.colour
  format := o.format.getD s.format
  logLevel := o.logLevel.getD s.logLevel

/-! ## The environment -/

/-- The value of a variable, if it is set. -/
abbrev Environment := String → Option String

namespace Environment

/-- The variables that give settings. -/
def names : List String :=
  ["PLAINBDD_FEATURES_DIR", "PLAINBDD_SHOW_ADVISE", "PLAINBDD_COLOR", "PLAINBDD_FORMAT",
    "PLAINBDD_LOG_LEVEL"]

/-- The words for a switch that is on. -/
def onWords : List String := ["1", "true", "TRUE", "True", "yes", "YES", "Yes", "on", "ON", "On"]

/-- The words for a switch that is off. -/
def offWords : List String :=
  ["0", "false", "FALSE", "False", "no", "NO", "No", "off", "OFF", "Off"]

def readSwitch (text : String) : Except SettingsError Bool :=
  let word := Text.trimmed text
  if word ∈ onWords then .ok true
  else if word ∈ offWords then .ok false
  else .error ⟨"invalid PLAINBDD_SHOW_ADVISE value '" ++ text ++ "', expected a boolean"⟩

/-- Reads a variable if it is set. -/
def readIfSet {α : Type} (read : String → Except SettingsError α) :
    Option String → Except SettingsError (Option α)
  | none => .ok none
  | some text => (read text).map some

/-- The settings that an environment gives. The first variable with a bad value is the one that
counts. -/
def overrides (env : Environment) : Except SettingsError Overrides := do
  let featuresDir := (env "PLAINBDD_FEATURES_DIR").filter fun dir => !Text.isAllBlank dir.toList
  let showAdvice ← readIfSet readSwitch (env "PLAINBDD_SHOW_ADVISE")
  let colour ← readIfSet ColourMode.read (env "PLAINBDD_COLOR")
  let format ← readIfSet ReportFormat.read (env "PLAINBDD_FORMAT")
  let logLevel ← readIfSet LogLevel.read (env "PLAINBDD_LOG_LEVEL")
  return { featuresDir, showAdvice, colour, format, logLevel }

end Environment

/-- The settings of an environment, overridden by those of the command line. -/
def Settings.load (env : Environment) (flags : Overrides) : Except SettingsError Settings :=
  match env.overrides with
  | .ok given => .ok ((({} : Settings).override given).override flags)
  | .error e => .error e

end FeatureScript
