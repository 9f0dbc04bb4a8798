/-!
# FeatureScript.Report.Sink

Where a report is written to. A `Sink` takes bytes and may fail; what it has taken by then stays
written. A `Pipe` keeps what it takes, and may be told to take nothing after a number of lines.
-/

namespace FeatureScript

structure WriteError where
  message : String
  deriving DecidableEq, Repr

/-- A destination of bytes with a state of its own. -/
structure Sink (ω : Type) where
  /-- Everything taken so far. -/
  written : ω → ByteArray
  write : ω → ByteArray → Except WriteError Unit × ω
  flush : ω → Except WriteError Unit × ω

/-- Writes texts in order, up to the first that cannot be written. -/
def Sink.writeAll {ω : Type} (S : Sink ω) (out : ω) : List String → Except WriteError Unit × ω
  | [] => (.ok (), out)
  | text :: rest =>
    match S.write out text.toUTF8 with
    | (.ok (), out) => S.writeAll out rest
    | (.error e, out) => (.error e, out)

structure Pipe where
  bytes : ByteArray := ByteArray.empty
  /-- The number of lines after which nothing more is taken; without it, everything is. -/
  lineLimit : Option Nat := none
  /-- The number of lines that were taken. -/
  lines : Nat := 0
  /-- Why flushing fails, if it does. -/
  flushError : Option WriteError := none
  deriving Inhabited

namespace Pipe

/-- Number of lines that end in the bytes. -/
def lineEnds (bytes : ByteArray) : Nat := bytes.toList.count 10

/-- What is written at once is taken as a whole or not at all. -/
def sink : Sink Pipe where
  written p := p.bytes
  write p bytes :=
    let taken := { p with bytes := p.bytes ++ bytes, lines := p.lines + lineEnds bytes }
    match p.lineLimit with
    | none => (.ok (), taken)
    | some limit =>
      if p.lines < limit then (.ok (), taken)
      else (.error ⟨"pipe closed after " ++ toString limit⟩, p)
  flush p :=
    match p.flushError with
    | none => (.ok (), p)
    | some e => (.error e, p)

end Pipe
end FeatureScript
