import FeatureScript.Settings

/-!
# FeatureScript.CommandLine

The arguments of the program. They are read from left to right.

An option takes a value: the next argument, or what stands behind an equals sign. Its value is
settled, that is, checked and given to its setting, when the next option or flag is met, or at the
end of the arguments. An argument that nobody expects, or a value for a flag, ends the reading
before that. No option and no flag may be given twice.
-/

namespace FeatureScript
namespace CommandLine

inductive OptionName where
  | featuresDir
  | colour
  | format
  | logLevel
  deriving DecidableEq, Repr

inductive Flag where
  | advise
  | help
  | version
  deriving DecidableEq, Repr

/-- What the arguments ask for in place of a run, or what is wrong with them. -/
inductive Halt where
  | help
  | version
  /-- An option without its value. -/
  | missingValue
  /-- A value that a setting does not have. -/
  | badValue
  /-- An argument that is no option and no flag, and the value of none. -/
  | unknown
  /-- An option or a flag that has been given before. -/
  | repeated
  /-- A value for a flag. -/
  | unexpectedValue
  deriving DecidableEq, Repr

/-! ## Single arguments -/

inductive Argument where
  /-- Two hyphens; what follows is no option and no flag. -/
  | separator
  | option (name : OptionName) (value : Option String)
  | flag (name : Flag) (value : Option String)
  | plain (text : String)
  | unknown
  deriving DecidableEq, Repr

def optionNames : List (String × OptionName) :=
  [("features-dir", .featuresDir), ("color", .colour), ("format", .format),
    ("log-level", .logLevel)]

def flagNames : List (String × Flag) :=
  [("advise", .advise), ("help", .help), ("version", .version)]

/-- Flags of a single letter. -/
def flagLetters : List (Char × Flag) := [('h', .help), ('V', .version)]

/-- The name and the value around the first equals sign. -/
def nameAndValue (cs : List Char) : String × Option String :=
  let name := cs.takeWhile (· ≠ '=')
  match cs.dropWhile (· ≠ '=') with
  | [] => (String.ofList name, none)
  | _ :: value => (String.ofList name, some (String.ofList value))

/-- An argument that begins with two hyphens, from what follows them. -/
def Argument.long (cs : List Char) : Argument :=
  let (name, value) := nameAndValue cs
  match optionNames.lookup name with
  | some o => .option o value
  | none =>
    match flagNames.lookup name with
    | some f => .flag f value
    | none => .unknown

def Argument.read (text : String) : Argument :=
  match text.toList with
  | ['-', '-'] => .separator
  | '-' :: '-' :: rest => .long rest
  | '-' :: letter :: _ =>
    match flagLetters.lookup letter with
    | some f => .flag f none
    | none => .unknown
  | _ => .plain text

/-! ## All arguments -/

/-- What has been read: the settings given, and the option last met, with its value if that has been
met too. -/
structure Reading where
  given : Overrides := {}
  pending : Option (OptionName × Option String) := none
  deriving DecidableEq, Repr, Inhabited

/-- Fills a place that must be empty. -/
def fill {α : Type} (place : Option α) (value : Except SettingsError α) : Except Halt (Option α) :=
  match place, value with
  | some _, _ => .error .repeated
  | none, .ok a => .ok (some a)
  | none, .error _ => .error .badValue

/-- Gives a value to the setting of an option. -/
def give (o : Overrides) (name : OptionName) (text : String) : Except Halt Overrides :=
  match name with
  | .featuresDir => (fill o.featuresDir (.ok text)).map fun x => { o with featuresDir := x }
  | .colour => (fill o.colour (ColourMode.read text)).map fun x => { o with colour := x }
  | .format => (fill o.format (ReportFormat.read text)).map fun x => { o with format := x }
  | .logLevel => (fill o.logLevel (LogLevel.read text)).map fun x => { o with logLevel := x }

namespace Reading

/-- The settings given, with that of the last option. -/
def settle (r : Reading) : Except Halt Overrides :=
  match r.pending with
  | none => .ok r.given
  | some (_, none) => .error .missingValue
  | some (name, some value) => give r.given name value

/-- Reads one argument. -/
def accept (r : Reading) : Argument → Except Halt Reading
  | .separator | .unknown => .error .unknown
  | .option name none => do return { given := ← r.settle, pending := some (name, none) }
  | .option name (some value) => do return { given := ← give (← r.settle) name value }
  | .flag _ (some _) => .error .unexpectedValue
  | .flag .help none => do
    let _ ← r.settle
    .error .help
  | .flag .version none => do
    let _ ← r.settle
    .error .version
  | .flag .advise none => do
    let given ← r.settle
    let showAdvice ← fill given.showAdvice (.ok true)
    return { given := { given with showAdvice } }
  | .plain text =>
    match r.pending with
    | some (name, none) => .ok { r with pending := some (name, some text) }
    | _ => .error .unknown

/-- Reads arguments in order. Behind a separator there must be nothing. -/
def acceptAll (r : Reading) : List String → Except Halt Overrides
  | [] => r.settle
  | text :: rest =>
    match Argument.read text with
    | .separator => if rest.isEmpty then r.settle else .error .unknown
    | argument =>
      match r.accept argument with
      | .ok r => r.acceptAll rest
      | .error halt => .error halt

end Reading

/-- The settings that the arguments give. -/
def read (arguments : List String) : Except Halt Overrides := Reading.acceptAll {} arguments

end CommandLine
end FeatureScript
