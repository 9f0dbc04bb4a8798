import FeatureScript.Report.Sink

/-!
# FeatureScript.Report.Writer

A sink that is fed in attempts. A `Writer` answers each attempt to write: it takes some of the bytes
from the front, it is interrupted, or it fails. `Writer.sink` writes a text by attempts: it offers
what is left until nothing is left, tries again when it is interrupted, and stops where the writer
fails or takes nothing at all. All calls on the writer are kept.
-/

namespace FeatureScript

/-- What an attempt to write comes to. Bytes are taken from the front of those that are offered. -/
inductive Attempt where
  | took (count : Nat)
  /-- Nothing was taken, and the same may be offered again. -/
  | interrupted
  | failed (error : WriteError)
  deriving DecidableEq, Repr

/-- A destination of bytes that need not take all of them at once. -/
structure Writer (ω : Type) where
  attempt : ω → List UInt8 → Attempt × ω
  flush : ω → Except WriteError Unit × ω
  took_le : ∀ {out bytes count}, (attempt out bytes).1 = .took count → count ≤ bytes.length
  /-- Who offers the same bytes again and again is not interrupted for ever. -/
  settles : ∀ bytes, WellFounded fun out' out => attempt out bytes = (.interrupted, out')

/-- The error of a writer that takes nothing of what is offered. -/
def WriteError.nothingTaken : WriteError := ⟨"failed to write whole buffer"⟩

def WriteError.noRoom : WriteError := ⟨"no space left on device"⟩

namespace Writer

variable {ω : Type}

/-- A writer with room for some bytes, which fails when it is full. -/
def bounded : Writer Nat where
  attempt room bytes :=
    if room = 0 then (.failed .noRoom, 0) else (.took (min room bytes.length), room - bytes.length)
  flush room := (.ok (), room)
  took_le := by
    intro room bytes count h
    split at h
    · cases h
    · cases h
      exact Nat.min_le_right _ _
  settles bytes := by
    refine ⟨fun room => .intro room fun room' h => ?_⟩
    split at h <;> cases h

/-- Offers bytes until the writer is not interrupted, and returns how many it takes. -/
def offer (W : Writer ω) (bytes : List UInt8) (out : ω) : Except WriteError Nat × ω :=
  match _h : W.attempt out bytes with
  | (.took count, out') => (.ok count, out')
  | (.interrupted, out') => W.offer bytes out'
  | (.failed e, out') => (.error e, out')
termination_by (W.settles bytes).wrap out

/-- Writes bytes in order, up to those that cannot be written. -/
def writeAll (W : Writer ω) (out : ω) (bytes : List UInt8) : Except WriteError Unit × ω :=
  if _h : bytes = [] then (.ok (), out)
  else
    match W.offer bytes out with
    | (.ok 0, out) => (.error .nothingTaken, out)
    | (.ok (n + 1), out) => W.writeAll out (bytes.drop (n + 1))
    | (.error e, out) => (.error e, out)
termination_by bytes.length
decreasing_by
  have := List.length_pos_iff.mpr _h
  simp only [List.length_drop]
  omega

inductive Call where
  | attempt (bytes : List UInt8) (answer : Attempt)
  | flush (answer : Except WriteError Unit)

/-- The bytes that a call leaves with the writer. -/
def Call.taken : Call → List UInt8
  | .attempt bytes (.took count) => bytes.take count
  | .attempt _ .interrupted | .attempt _ (.failed _) | .flush _ => []

/-- The state of a writer with the calls made so far. -/
structure Recorded (ω : Type) where
  state : ω
  calls : List Call := []

namespace Recorded

def add (out : Recorded ω) (state : ω) (c : Call) : Recorded ω :=
  { state, calls := out.calls ++ [c] }

/-- Everything that was taken. -/
def taken (out : Recorded ω) : List UInt8 := out.calls.flatMap Call.taken

end Recorded

/-- The writer that keeps the calls made on it, and answers as before. -/
def recorded (W : Writer ω) : Writer (Recorded ω) where
  attempt out bytes :=
    ((W.attempt out.state bytes).1, out.add (W.attempt out.state bytes).2
      (.attempt bytes (W.attempt out.state bytes).1))
  flush out :=
    ((W.flush out.state).1, out.add (W.flush out.state).2 (.flush (W.flush out.state).1))
  took_le h := W.took_le h
  settles bytes := by
    refine Subrelation.wf ?_ (InvImage.wf Recorded.state (W.settles bytes))
    intro out' out h
    have hanswer : (W.attempt out.state bytes).1 = .interrupted := congrArg Prod.fst h
    have hstate : (W.attempt out.state bytes).2 = out'.state := congrArg (·.2.state) h
    exact Prod.ext hanswer hstate

/-- What is written to the sink is written to the writer, by as many attempts as it takes. -/
def sink (W : Writer ω) : Sink (Recorded ω) where
  written out := ⟨out.taken.toArray⟩
  write out bytes := W.recorded.writeAll out bytes.data.toList
  flush := W.recorded.flush

end Writer
end FeatureScript
