import FeatureScript.Proofs.Text.Split
import FeatureScript.Report.Console
import FeatureScript.Report.Document

/-!
# FeatureScript.Proofs.Report.Written

What reports write where nothing goes wrong.

`Sink.Reliable`: from good states on a sink takes everything. `Sink.Appended`: from one state to
another a text has been written, and nothing else. Texts that are written one after the other add up
(`Appended.trans`), so a console that is told events has written all their pieces
(`Console.Wrote.reportAll`), and the lines of a document make up its text (`Document.join_lines`).
-/

namespace FeatureScript

variable {ω : Type}

namespace Sink

variable {S : Sink ω} {good : ω → Prop}

/-- The text has been written between the two states, and the sink is in a good state still. -/
structure Appended (S : Sink ω) (good : ω → Prop) (out out' : ω) (text : String) : Prop where
  good : good out'
  written : S.written out' = S.written out ++ text.toUTF8

/-- In a good state the sink takes what is written to it and nothing else. -/
structure Reliable (S : Sink ω) (good : ω → Prop) : Prop where
  write : ∀ out text, good out → ∃ out',
    S.write out text.toUTF8 = (.ok (), out') ∧ S.Appended good out out' text
  flush : ∀ out, good out → ∃ out', S.flush out = (.ok (), out') ∧ S.Appended good out out' ""

namespace Appended

variable {out mid out' : ω} {s t : String}

theorem refl (h : good out) : S.Appended good out out "" :=
  ⟨h, ByteArray.append_empty.symm⟩

theorem trans (hs : S.Appended good out mid s) (ht : S.Appended good mid out' t) :
    S.Appended good out out' (s ++ t) where
  good := ht.good
  written := by
    rw [ht.written, hs.written, ByteArray.append_assoc]
    exact congrArg (S.written out ++ ·) String.toByteArray_append.symm

end Appended

theorem Reliable.writeAll (hS : S.Reliable good) {out : ω} (hout : good out) (texts : List String) :
    ∃ out', S.writeAll out texts = (.ok (), out') ∧
      S.Appended good out out' (String.join texts) := by
  induction texts generalizing out with
  | nil => exact ⟨out, rfl, .refl hout⟩
  | cons text rest ih =>
    obtain ⟨mid, hwrite, htext⟩ := hS.write out text hout
    obtain ⟨out', hall, hrest⟩ := ih htext.good
    refine ⟨out', ?_, by rw [String.join_cons]; exact htext.trans hrest⟩
    simp only [Sink.writeAll, hwrite, hall]

end Sink

/-- A pipe without a limit takes everything. -/
theorem Pipe.sink_reliable :
    Pipe.sink.Reliable fun p => p.lineLimit = none ∧ p.flushError = none where
  write p text := fun ⟨hlimit, hflush⟩ =>
    ⟨{ p with bytes := p.bytes ++ text.toUTF8, lines := p.lines + Pipe.lineEnds text.toUTF8 },
      by simp only [Pipe.sink, hlimit], ⟨hlimit, hflush⟩, rfl⟩
  flush p := fun hp => ⟨p, by simp only [Pipe.sink, hp.2], .refl hp⟩

/-! ## The console -/

namespace Console

variable {S : Sink ω} {good : ω → Prop} {style : Style}

/-- No error has been met, and the text has been written since the sink was in the state. -/
structure Wrote (S : Sink ω) (good : ω → Prop) (out : ω) (c : Console ω) (text : String) : Prop
    extends S.Appended good out c.sink text where
  no_error : c.error = none

variable {out : ω} {c : Console ω} {text : String}

theorem Wrote.put (h : Wrote S good out c text) (hS : S.Reliable good) (piece : String) :
    Wrote S good out (c.put S piece) (text ++ piece) := by
  by_cases hpiece : piece = ""
  · subst hpiece
    simpa [Console.put] using h
  · obtain ⟨sink, hwrite, hsink⟩ := hS.write c.sink piece h.good
    have hput : c.put S piece = { c with sink } := by
      rw [Console.put, if_neg (by simp [h.no_error, hpiece]), hwrite]
    rw [hput]
    exact ⟨h.toAppended.trans hsink, h.no_error⟩

theorem Wrote.putAll (h : Wrote S good out c text) (hS : S.Reliable good) (pieces : List String) :
    Wrote S good out (c.putAll S pieces) (text ++ String.join pieces) := by
  induction pieces generalizing c text with
  | nil => simpa [Console.putAll] using h
  | cons piece rest ih =>
    rw [String.join_cons, ← String.append_assoc]
    exact ih (h.put hS piece)

/-- The text of events. -/
def transcript (style : Style) (events : List Event) : String :=
  String.join (events.flatMap (pieces style))

theorem Wrote.reportAll (h : Wrote S good out c text) (hS : S.Reliable good)
    (events : List Event) :
    Wrote S good out ((report S style).reportAll c events) (text ++ transcript style events) := by
  induction events generalizing c text with
  | nil => simpa [transcript, Reporter.reportAll] using h
  | cons e rest ih =>
    have hrest := ih (h.putAll hS (pieces style e))
    rwa [String.append_assoc, transcript, ← String.join_append, ← List.flatMap_cons] at hrest

theorem Wrote.finish (h : Wrote S good out c text) (hS : S.Reliable good) :
    ∃ out', c.finish S = (.ok (), out') ∧ S.Appended good out out' text := by
  obtain ⟨out', hflush, hout'⟩ := hS.flush c.sink h.good
  refine ⟨out', by simp only [Console.finish, h.no_error, hflush], ?_⟩
  simpa using h.toAppended.trans hout'

end Console

/-! ## The document -/

/-- The lines of a document, put together, are its text and the end of a line. -/
theorem Document.join_lines (d : Document) : String.join d.lines = d.pretty ++ "\n" := by
  apply String.toList_injective
  rw [String.toList_join, Document.lines, List.flatMap_map]
  simp only [String.toList_ofList]
  rw [Text.flatMap_split, Document.pretty]
  simp

end FeatureScript
