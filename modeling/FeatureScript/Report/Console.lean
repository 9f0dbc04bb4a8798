import FeatureScript.Report.Sink
import FeatureScript.Report.Tally

/-!
# FeatureScript.Report.Console

The transcript of a run. Each heading and each step is a line padded to a column, with a comment
that tells where it comes from; colours tell how a step went. The output of a step follows its line.

A transcript is a list of pieces, written one after the other. The first piece that cannot be
written is the last that is tried: its error is kept and returned at the end.
-/

namespace FeatureScript
namespace Console

/-- Lines are padded to this number of characters. -/
def columnWidth : Nat := 60

inductive Colour where
  | red
  | green
  | yellow
  | blue
  | purple
  | grey
  deriving DecidableEq, Repr

/-- The sequence that switches to a colour. -/
def Colour.code : Colour → String
  | .red => "\x1b[1;31m"
  | .green => "\x1b[1;32m"
  | .yellow => "\x1b[1;33m"
  | .blue => "\x1b[1;34m"
  | .purple => "\x1b[0;35m"
  | .grey => "\x1b[1;30m"

def reset : String := "\x1b[00m"
def boldOn : String := "\x1b[1m"
def boldOff : String := "\x1b[22m"

structure Style where
  colour : Bool := true
  advise : Bool := false
  deriving DecidableEq, Repr, Inhabited

def paint (style : Style) (c : Colour) (text : String) : String :=
  if style.colour then c.code ++ text ++ reset else text

def bold (style : Style) (text : String) : String :=
  if style.colour then boldOn ++ text ++ boldOff else text

/-- The text with spaces behind it, up to the column. -/
def pad (text : String) : String :=
  text ++ String.ofList (List.replicate (columnWidth - text.length) ' ')

/-- A line with the place it comes from. -/
def located (style : Style) (line : Line) (c : Option Colour) : List String :=
  let text := match c with
    | some c => paint style c (pad line.text)
    | none => bold style (pad line.text)
  [text, paint style .grey (" # " ++ line.source ++ " : " ++ toString line.number), "\n"]

/-- The output of a step, if there is any. -/
def trailing (output : String) : List String := if output.isEmpty then [] else [output, "\n"]

/-- The pieces of one event. -/
def pieces (style : Style) : Event → List String
  | .feature line _ | .scenario line _ => located style line none
  | .text line => [bold style line.text, "\n"]
  | .step line (.pass output) => located style line (some .green) ++ trailing output
  | .step line (.fail output detail) =>
    located style line (some .red) ++ [renderFailure output detail, "\n"]
  | .step line (.missing _) => located style line (some .blue)
  | .step line (.noAssertions output) => located style line (some .yellow) ++ trailing output
  | .advice _ message =>
    if style.advise then [paint style .purple (bold style "[Advise]\n" ++ message), "\n"] else []

/-- The pieces of the closing line. -/
def summaryPieces (style : Style) (t : Tally) : List String :=
  ["\n", paint style (if t.hasFailures then .red else .green) t.message, "\n"]

end Console

/-- A console at work: the state of its sink and the first error. -/
structure Console (ω : Type) where
  sink : ω
  error : Option WriteError := none

namespace Console

variable {ω : Type}

/-- Writes a piece. After an error nothing more is written; an empty piece needs no writing. -/
def put (S : Sink ω) (c : Console ω) (piece : String) : Console ω :=
  if c.error.isSome || piece.isEmpty then c
  else
    match S.write c.sink piece.toUTF8 with
    | (.ok (), sink) => { c with sink }
    | (.error e, sink) => { sink, error := some e }

def putAll (S : Sink ω) (c : Console ω) (pieces : List String) : Console ω :=
  pieces.foldl (put S) c

def report (S : Sink ω) (style : Style) : Reporter (Console ω) := fun c e =>
  c.putAll S (pieces style e)

/-- Writes the closing line. -/
def summary (S : Sink ω) (style : Style) (c : Console ω) (t : Tally) : Console ω :=
  c.putAll S (summaryPieces style t)

/-- Flushes the sink, unless something could not be written before. -/
def finish (S : Sink ω) (c : Console ω) : Except WriteError Unit × ω :=
  match c.error with
  | some e => (.error e, c.sink)
  | none => S.flush c.sink

end Console
end FeatureScript
