import FeatureScript.Proofs.Report.Written
import FeatureScript.Report.Writer

/-!
# FeatureScript.Proofs.Report.Broken

What reports write where something goes wrong.

`Fed text calls stopped`: the calls on a writer write a text, up to the first one that fails, if
any. Texts that are fed one after the other add up (`Fed.append`), and after a failure nothing more
is offered (`Fed.unwritten`). So a console has fed its writer all pieces of what it was told, up to
the first failure (`Console.FedAs.tellAll`). `broken_output_cut_short`: what the writer has taken is
a prefix of the transcript, a call that fails is the last one, and its error is what the console
ends with.
-/

namespace FeatureScript

variable {ω : Type}

/-- Why writing stops at an attempt. -/
def Attempt.error? : Attempt → Option WriteError
  | .failed e => some e
  | .took 0 => some .nothingTaken
  | .took (_ + 1) | .interrupted => none

namespace Writer

/-- An attempt that did not fail. -/
def Call.wentWell : Call → Bool
  | .attempt _ answer => answer.error?.isNone
  | .flush _ => false

/-- Why writing stops at a call. -/
def Call.error? : Call → Option WriteError
  | .attempt _ answer => answer.error?
  | .flush _ => none

/-- Everything that calls leave with the writer. -/
def takenBy (calls : List Call) : List UInt8 := calls.flatMap Call.taken

theorem Call.error?_of_wentWell {c : Call} (h : c.wentWell = true) : c.error? = none := by
  cases c with
  | attempt bytes answer => simpa [wentWell, error?] using h
  | flush answer => rfl

/-- The calls write the text, if nothing stops them; else the last of them fails, and it is the
first to fail, after what comes before it in the text was taken. -/
def Fed (text : List UInt8) (calls : List Call) : Option WriteError → Prop
  | none => (∀ c ∈ calls, c.wentWell = true) ∧ takenBy calls = text
  | some e => ∃ before offered answer rest, calls = before ++ [.attempt offered answer] ∧
      (∀ c ∈ before, c.wentWell = true) ∧ answer.error? = some e ∧
      text = takenBy before ++ offered ++ rest

theorem takenBy_append (calls calls' : List Call) :
    takenBy (calls ++ calls') = takenBy calls ++ takenBy calls' := List.flatMap_append

namespace Fed

variable {text more : List UInt8} {calls calls' : List Call} {e : WriteError}
  {stopped : Option WriteError}

theorem nothing : Fed [] [] none := ⟨by simp, rfl⟩

theorem append (h : Fed text calls none) (h' : Fed more calls' stopped) :
    Fed (text ++ more) (calls ++ calls') stopped := by
  obtain ⟨hcalls, rfl⟩ := h
  cases stopped with
  | none =>
    obtain ⟨hcalls', rfl⟩ := h'
    exact ⟨List.forall_mem_append.mpr ⟨hcalls, hcalls'⟩, takenBy_append calls calls'⟩
  | some e =>
    obtain ⟨before, offered, answer, rest, rfl, hbefore, herror, rfl⟩ := h'
    refine ⟨calls ++ before, offered, answer, rest, by simp,
      List.forall_mem_append.mpr ⟨hcalls, hbefore⟩, herror, ?_⟩
    simp [takenBy_append]

/-- After a failure, what else is to be written stays unwritten. -/
theorem unwritten (h : Fed text calls (some e)) (more : List UInt8) :
    Fed (text ++ more) calls (some e) := by
  obtain ⟨before, offered, answer, rest, hcalls, hbefore, herror, rfl⟩ := h
  exact ⟨before, offered, answer, rest ++ more, hcalls, hbefore, herror, by simp⟩

theorem failed {offered : List UInt8} {answer : Attempt} (h : answer.error? = some e) :
    Fed offered [.attempt offered answer] (some e) :=
  ⟨[], offered, answer, [], rfl, by simp, h, by simp [takenBy]⟩

/-- An attempt that fails leaves nothing with the writer. -/
theorem taken_of_error {offered : List UInt8} {answer : Attempt} (h : answer.error? = some e) :
    (Call.attempt offered answer).taken = [] := by
  cases answer with
  | took count =>
    cases count with
    | zero => rfl
    | succ n => cases h
  | interrupted => rfl
  | failed error => rfl

/-- Whatever happens, what was taken is the beginning of the text. -/
theorem taken_isPrefix (h : Fed text calls stopped) : takenBy calls <+: text := by
  cases stopped with
  | none =>
    obtain ⟨-, rfl⟩ := h
    exact List.prefix_rfl
  | some e =>
    obtain ⟨before, offered, answer, rest, rfl, -, herror, rfl⟩ := h
    refine ⟨offered ++ rest, ?_⟩
    simp [takenBy, taken_of_error herror]

/-- A call that fails is the last one, and the first to fail. -/
theorem last_of_error {before after : List Call} {c : Call} (h : Fed text calls stopped)
    (hcalls : calls = before ++ c :: after) (hc : c.error? = some e) :
    stopped = some e ∧ after = [] ∧ ∀ c ∈ before, c.wentWell = true := by
  have hfails : ¬ c.wentWell = true := fun hwell => by
    rw [Call.error?_of_wentWell hwell] at hc
    cases hc
  cases stopped with
  | none => exact absurd (h.1 c (by simp [hcalls])) hfails
  | some e' =>
    obtain ⟨before', offered, answer, rest, rfl, hbefore, herror, -⟩ := h
    rcases List.eq_nil_or_concat after with rfl | ⟨after, last, rfl⟩
    · obtain ⟨rfl, hlast⟩ := List.append_inj' hcalls rfl
      cases hlast
      exact ⟨herror.symm.trans hc, rfl, hbefore⟩
    · -- the call would be one of those before the last, and none of these fails
      have hlonger : before' ++ [.attempt offered answer] = (before ++ c :: after) ++ [last] := by
        simpa using hcalls
      obtain ⟨rfl, -⟩ := List.append_inj' hlonger rfl
      exact absurd (hbefore c (by simp)) hfails

end Fed

/-- What is known after bytes were offered: how many of them are taken, or why writing stops. -/
def Offered (bytes : List UInt8) (calls : List Call) : Except WriteError Nat → Prop
  | .ok 0 => Fed bytes calls (some .nothingTaken)
  | .ok (n + 1) => Fed (bytes.take (n + 1)) calls none
  | .error e => Fed bytes calls (some e)

theorem Offered.wait {bytes : List UInt8} {calls : List Call} {result : Except WriteError Nat}
    (h : Offered bytes calls result) :
    Offered bytes (.attempt bytes .interrupted :: calls) result := by
  have hwait : Fed [] [.attempt bytes .interrupted] none :=
    ⟨by simp [Call.wentWell, Attempt.error?], rfl⟩
  have hafter : ∀ text stopped, Fed text calls stopped →
      Fed text (.attempt bytes .interrupted :: calls) stopped := fun _ _ => hwait.append
  cases result with
  | error e => exact hafter bytes (some e) h
  | ok count =>
    cases count with
    | zero => exact hafter bytes (some .nothingTaken) h
    | succ n => exact hafter (bytes.take (n + 1)) none h

theorem attempt_recorded {W : Writer ω} {bytes : List UInt8} {out out' : Recorded ω}
    {answer : Attempt} (h : W.recorded.attempt out bytes = (answer, out')) :
    out'.calls = out.calls ++ [.attempt bytes answer] := by
  cases h
  rfl

theorem offer_offered (W : Writer ω) (bytes : List UInt8) (out : Recorded ω) :
    ∃ calls, (W.recorded.offer bytes out).2.calls = out.calls ++ calls ∧
      Offered bytes calls (W.recorded.offer bytes out).1 := by
  induction out using Writer.offer.induct_unfolding W.recorded bytes with
  | case1 out count out' h =>
    refine ⟨_, attempt_recorded h, ?_⟩
    cases count with
    | zero => exact .failed rfl
    | succ n => exact ⟨by simp [Call.wentWell, Attempt.error?], by simp [takenBy, Call.taken]⟩
  | case2 out out' h ih =>
    obtain ⟨calls, hcalls, hoffered⟩ := ih
    exact ⟨_, by rw [hcalls, attempt_recorded h, List.append_assoc]; rfl, hoffered.wait⟩
  | case3 out e out' h => exact ⟨_, attempt_recorded h, .failed rfl⟩

/-- Why the writing of a text was stopped, if it was. -/
def stopOf : Except WriteError Unit → Option WriteError
  | .ok () => none
  | .error e => some e

theorem writeAll_fed (W : Writer ω) (out : Recorded ω) (bytes : List UInt8) :
    ∃ calls, (W.recorded.writeAll out bytes).2.calls = out.calls ++ calls ∧
      Fed bytes calls (stopOf (W.recorded.writeAll out bytes).1) := by
  induction out, bytes using Writer.writeAll.induct_unfolding W.recorded with
  | case1 out => exact ⟨[], by simp, .nothing⟩
  | case2 out bytes _ out' h =>
    obtain ⟨calls, hcalls, hoffered⟩ := W.offer_offered bytes out
    rw [h] at hcalls hoffered
    exact ⟨calls, hcalls, hoffered⟩
  | case3 out bytes _ n out' h ih =>
    obtain ⟨calls, hcalls, hoffered⟩ := W.offer_offered bytes out
    obtain ⟨calls', hcalls', hrest⟩ := ih
    rw [h] at hcalls hoffered
    have hall := Fed.append hoffered hrest
    rw [List.take_append_drop] at hall
    exact ⟨calls ++ calls', by rw [hcalls', hcalls, List.append_assoc], hall⟩
  | case4 out bytes _ e out' h =>
    obtain ⟨calls, hcalls, hoffered⟩ := W.offer_offered bytes out
    rw [h] at hcalls hoffered
    exact ⟨calls, hcalls, hoffered⟩

example :
    let written := Writer.bounded.recorded.writeAll { state := 3 } [1, 2, 3, 4, 5]
    written.1 = .error .noRoom ∧ written.2.taken = [1, 2, 3] := by
  cbv

end Writer

/-! ## The console -/

namespace Console

open Writer

/-- What a console can be told. -/
inductive Notice where
  | event (e : Event)
  /-- The closing line. -/
  | summary (t : Tally)

def Notice.pieces (style : Style) : Notice → List String
  | .event e => Console.pieces style e
  | .summary t => summaryPieces style t

def tell (S : Sink ω) (style : Style) (c : Console ω) : Notice → Console ω
  | .event e => report S style c e
  | .summary t => c.summary S style t

def tellAll (S : Sink ω) (style : Style) (c : Console ω) (notices : List Notice) : Console ω :=
  notices.foldl (tell S style) c

/-- The text of notices. -/
def textOf (style : Style) (notices : List Notice) : String :=
  String.join (notices.flatMap (Notice.pieces style))

def bytesOf (text : String) : List UInt8 := text.toUTF8.data.toList

theorem bytesOf_append (s t : String) : bytesOf (s ++ t) = bytesOf s ++ bytesOf t := by
  simp [bytesOf]

/-- The console has fed its writer the text, up to the first failure. -/
def FedAs (c : Console (Recorded ω)) (text : String) : Prop :=
  Fed (bytesOf text) c.sink.calls c.error

theorem FedAs.start (out : ω) : FedAs { sink := { state := out } } "" := .nothing

variable {W : Writer ω} {c : Console (Recorded ω)} {text : String}

/-- After an error nothing is written. -/
theorem put_of_error {S : Sink ω} {c : Console ω} {e : WriteError} (h : c.error = some e)
    (piece : String) : c.put S piece = c := by
  rw [put, if_pos (by simp [h])]

theorem FedAs.put (h : FedAs c text) (piece : String) :
    FedAs (c.put W.sink piece) (text ++ piece) := by
  unfold FedAs at h ⊢
  rw [bytesOf_append]
  cases herror : c.error with
  | some e =>
    rw [herror] at h
    rw [put_of_error herror, herror]
    exact h.unwritten (bytesOf piece)
  | none =>
    rw [herror] at h
    by_cases hpiece : piece = ""
    · -- no call is made for an empty piece
      subst hpiece
      simpa [Console.put, herror, bytesOf] using h
    · obtain ⟨calls, hcalls, hfed⟩ := W.writeAll_fed c.sink (bytesOf piece)
      rw [Console.put, if_neg (by simp [herror, hpiece])]
      have hwrite : W.sink.write c.sink piece.toUTF8 =
          W.recorded.writeAll c.sink (bytesOf piece) := rfl
      rw [hwrite]
      cases hresult : W.recorded.writeAll c.sink (bytesOf piece) with
      | mk result out =>
        rw [hresult] at hcalls hfed
        cases result with
        | ok u =>
          dsimp only at hcalls ⊢
          rw [hcalls, herror]
          exact h.append hfed
        | error e =>
          dsimp only at hcalls ⊢
          rw [hcalls]
          exact h.append hfed

theorem FedAs.putAll (h : FedAs c text) (pieces : List String) :
    FedAs (c.putAll W.sink pieces) (text ++ String.join pieces) := by
  induction pieces generalizing c text with
  | nil => simpa [Console.putAll] using h
  | cons piece rest ih =>
    rw [String.join_cons, ← String.append_assoc]
    exact ih (h.put piece)

theorem FedAs.tell (h : FedAs c text) (style : Style) (notice : Notice) :
    FedAs (c.tell W.sink style notice) (text ++ String.join (notice.pieces style)) := by
  cases notice with
  | event e => exact h.putAll (pieces style e)
  | summary t => exact h.putAll (summaryPieces style t)

theorem FedAs.tellAll (h : FedAs c text) (style : Style) (notices : List Notice) :
    FedAs (c.tellAll W.sink style notices) (text ++ textOf style notices) := by
  induction notices generalizing c text with
  | nil => simpa [Console.tellAll, textOf] using h
  | cons notice rest ih =>
    have hrest := ih (h.tell (W := W) style notice)
    rwa [String.append_assoc, textOf, ← String.join_append, ← List.flatMap_cons] at hrest

/-- What comes of telling a console some notices and ending it. -/
def writeUp (W : Writer ω) (start : ω) (style : Style) (notices : List Notice) :
    Except WriteError Unit × Recorded ω :=
  (tellAll W.sink style { sink := { state := start } } notices).finish W.sink

/-- A console ends with the error that it keeps, or as flushing does. -/
theorem finish_cases (W : Writer ω) (c : Console (Recorded ω)) :
    (∃ e, c.error = some e ∧ c.finish W.sink = (.error e, c.sink)) ∨
      (c.error = none ∧ ∃ answer state,
        c.finish W.sink = (answer, c.sink.add state (.flush answer))) := by
  unfold finish
  cases c.error with
  | some e => exact .inl ⟨e, rfl, rfl⟩
  | none => exact .inr ⟨rfl, _, _, rfl⟩

theorem taken_flushed (out : Recorded ω) (state : ω) (answer : Except WriteError Unit) :
    (out.add state (.flush answer)).taken = takenBy out.calls := by
  simp [Recorded.taken, Recorded.add, Call.taken, takenBy]

theorem FedAs.taken_isPrefix (h : FedAs c text) :
    (c.finish W.sink).2.taken <+: bytesOf text := by
  have htaken : takenBy c.sink.calls <+: bytesOf text := Fed.taken_isPrefix h
  obtain ⟨e, -, hfinish⟩ | ⟨-, answer, state, hfinish⟩ := finish_cases W c
  · rw [hfinish]
    exact htaken
  · rw [hfinish, taken_flushed]
    exact htaken

/-- A console ends with the error of the call that failed, and makes no call after it. -/
theorem FedAs.last_of_error (h : FedAs c text) {before after : List Call}
    {call : Call} {e : WriteError}
    (hcalls : (c.finish W.sink).2.calls = before ++ call :: after) (hcall : call.error? = some e) :
    (c.finish W.sink).1 = .error e ∧ after = [] ∧ ∀ call ∈ before, call.wentWell = true := by
  unfold FedAs at h
  obtain ⟨e', herror, hfinish⟩ | ⟨herror, answer, state, hfinish⟩ := finish_cases W c
  · rw [hfinish] at hcalls ⊢
    rw [herror] at h
    obtain ⟨he, hlast⟩ := h.last_of_error hcalls hcall
    cases he
    exact ⟨rfl, hlast⟩
  · -- all attempts went well, and flushing is no attempt
    rw [herror] at h
    have hmem : call ∈ (c.finish W.sink).2.calls := by simp [hcalls]
    rw [hfinish] at hmem
    have hnone : call.error? = none := by
      rcases List.mem_append.mp hmem with hmem | hmem
      · exact Call.error?_of_wentWell (h.1 call hmem)
      · rw [List.mem_singleton.mp hmem]
        rfl
    cases hnone.symm.trans hcall

/-- If no call fails, everything is written, and the console ends as flushing does. -/
theorem FedAs.taken_eq (h : FedAs c text)
    (hwell : ∀ call ∈ (c.finish W.sink).2.calls, call.error? = none) :
    (c.finish W.sink).2.taken = bytesOf text ∧
      ∃ attempts answer, (c.finish W.sink).2.calls = attempts ++ [.flush answer] ∧
        (c.finish W.sink).1 = answer ∧ ∀ call ∈ attempts, call.wentWell = true := by
  unfold FedAs at h
  obtain ⟨e, herror, hfinish⟩ | ⟨herror, answer, state, hfinish⟩ := finish_cases W c
  · rw [herror] at h
    rw [hfinish] at hwell
    obtain ⟨before, offered, answer, rest, hcalls, -, hanswer, -⟩ := h
    have hnone := hwell (.attempt offered answer) (by simp [hcalls])
    cases hnone.symm.trans hanswer
  · rw [herror] at h
    rw [hfinish, taken_flushed]
    exact ⟨h.2, _, answer, rfl, rfl, h.1⟩

/-- A console that is told some notices feeds its writer their text. -/
theorem fedAs_told (W : Writer ω) (start : ω) (style : Style) (notices : List Notice) :
    FedAs (tellAll W.sink style { sink := { state := start } } notices)
      (textOf style notices) := by
  have h := FedAs.tellAll (W := W) (.start start) style notices
  rwa [String.empty_append] at h

end Console

/-- A console is told of events and of tallies, and what it writes goes to a writer that may take
part of what is offered, interrupt, or fail, at any call. All writers that do not fail have taken
the same at the end, the transcript; and what the writer has taken is its beginning. If a call
fails, it is the last one on the writer, none before it failed or flushed, and the console ends with
its error. If none fails, the writer is flushed once, at the end, and the console ends as flushing
does. -/
theorem broken_output_cut_short (W : Writer ω) (start : ω) (style : Console.Style)
    (notices : List Console.Notice) :
    let finished := Console.writeUp W start style notices
    let calls := finished.2.calls
    let transcript := Console.bytesOf (Console.textOf style notices)
    (∀ (υ : Type) (V : Writer υ) (other : υ), let whole := Console.writeUp V other style notices
      (∀ c ∈ whole.2.calls, c.error? = none) → whole.2.taken = transcript) ∧
    finished.2.taken <+: transcript ∧
    (∀ before c after e, calls = before ++ c :: after → c.error? = some e →
      finished.1 = .error e ∧ after = [] ∧ ∀ c ∈ before, c.wentWell = true) ∧
    ((∀ c ∈ calls, c.error? = none) → finished.2.taken = transcript ∧
      ∃ attempts answer, calls = attempts ++ [.flush answer] ∧ finished.1 = answer ∧
        ∀ c ∈ attempts, c.wentWell = true) := by
  intro finished calls transcript
  have hfed := Console.fedAs_told W start style notices
  refine ⟨?_, hfed.taken_isPrefix,
    fun before c after e hcalls hc => hfed.last_of_error hcalls hc, hfed.taken_eq⟩
  intro υ V other whole hwell
  exact ((Console.fedAs_told V other style notices).taken_eq hwell).1

end FeatureScript
