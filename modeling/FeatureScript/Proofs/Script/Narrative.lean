import FeatureScript.Proofs.Report.Log
import FeatureScript.Proofs.Script.Join

/-!
# FeatureScript.Proofs.Script.Narrative

Lines of plain text between the lines of a script.

A line of plain text is told and nothing else. So two runs, of which only the second has the line,
are the same up to it, and behind it both go on as a run that starts there afresh
(`Stage.acceptToEnd_insert`). `text_is_inert`: wherever plain text is put into a script, it changes
neither the calls nor what is told of the other lines, but for their numbers.
-/

namespace FeatureScript

open Advice (textOfLines)

variable {σ : Type}

/-! ## Making room -/

/-- Lines behind line `n` are numbered one higher. -/
def Event.makeRoom (n : Nat) (e : Event) : Event :=
  if e.line?.any fun line => n < line.number then e.shift 1 else e

def InterpretError.makeRoom (n : Nat) (e : InterpretError) : InterpretError :=
  if n < e.number then e.shift 1 else e

def Event.isText : Event → Bool
  | .text _ => true
  | _ => false

theorem Event.isText_makeRoom (n : Nat) (e : Event) : (e.makeRoom n).isText = e.isText := by
  unfold makeRoom
  split
  · cases e <;> rfl
  · rfl

namespace Event

variable {n : Nat} {events : List Event}

theorem filter_makeRoom (n : Nat) (events : List Event) :
    (events.filter (!·.isText)).map (makeRoom n) = (events.map (makeRoom n)).filter (!·.isText) := by
  rw [List.filter_map]
  simp only [Function.comp_def, isText_makeRoom]

theorem map_makeRoom_of_le (h : ∀ e ∈ events, ∃ line, line.number ≤ n ∧ Tells line e) :
    events.map (makeRoom n) = events := by
  refine (List.map_congr_left fun e he => ?_).trans (List.map_id _)
  obtain ⟨line, hn, htells⟩ := h e he
  simp [makeRoom, htells.line?, Nat.not_lt.mpr hn]

theorem map_makeRoom_of_lt (h : ∀ e ∈ events, ∃ line, n < line.number ∧ Tells line e) :
    events.map (makeRoom n) = events.map (shift 1) := by
  refine List.map_congr_left fun e he => ?_
  obtain ⟨line, hn, htells⟩ := h e he
  simp [makeRoom, htells.line?, hn]

end Event

theorem InterpretError.makeRoom_of_le {n : Nat} {line : Line} {e : InterpretError} (h : e.At line)
    (hn : line.number ≤ n) : e.makeRoom n = e := by
  simp [makeRoom, h.number_eq, Nat.not_lt.mpr hn]

theorem InterpretError.makeRoom_of_lt {n : Nat} {line : Line} {e : InterpretError} (h : e.At line)
    (hn : n < line.number) : e.makeRoom n = e.shift 1 := by
  simp [makeRoom, h.number_eq, hn]

/-! ## Taking the line -/

/-- What stands behind one run with the same calls before it has the same log. -/
theorem Behind.executor_eq {n m : Nat} {calls : List Call} {events events' : List Event}
    {x y y' : Logged σ} {r u u' : Recording} (h : Behind n calls events x r y u)
    (h' : Behind m calls events' x r y' u') : y' = y := by
  obtain ⟨state, more⟩ := y
  obtain ⟨state', more'⟩ := y'
  obtain ⟨rfl, rfl, -⟩ := h
  obtain ⟨rfl, rfl, -⟩ := h'
  rfl

namespace Stage

section

variable {ρ : Type} {E : Executor σ} {R : Reporter ρ} {s s' : Stage σ ρ} {xs : List Line}

theorem acceptToEnd_append (h : s.acceptAll E R xs = (.ok (), s')) (ys : List Line)
    (source : String) (lastLine : Nat) :
    s.acceptToEnd E R (xs ++ ys) source lastLine = s'.acceptToEnd E R ys source lastLine := by
  unfold acceptToEnd
  rw [acceptAll_append, h]

theorem acceptToEnd_append_of_error {e : InterpretError} (h : s.acceptAll E R xs = (.error e, s'))
    (ys : List Line) (source : String) (lastLine : Nat) :
    s.acceptToEnd E R (xs ++ ys) source lastLine = (.error e, s') := by
  unfold acceptToEnd
  rw [acceptAll_append, h]

theorem acceptToEnd_reporter (s : Stage σ ρ) (xs : List Line) (source : String) (lastLine : Nat) :
    (s.acceptToEnd E R xs source lastLine).2.reporter = (s.acceptAll E R xs).2.reporter := by
  unfold acceptToEnd
  obtain ⟨outcome, s'⟩ := s.acceptAll E R xs
  cases outcome <;> rfl

end

variable {E : Executor σ} {s s' : Stage (Logged σ) Recording} {xs ys : List Line} {line : Line}
  {source : String} {lastLine : Nat}

/-- A script is stopped at one of its lines, or by the tear-down at its end. -/
theorem acceptToEnd_error {e : InterpretError}
    (h : (s.acceptToEnd E.logged Recording.report xs source lastLine).1 = .error e) :
    ((s.acceptAll E.logged Recording.report xs).1 = .error e ∧ ∃ line ∈ xs, e.At line) ∨
      ((s.acceptAll E.logged Recording.report xs).1 = .ok () ∧
        ∃ cause, e = .lifecycle source lastLine (.tearDown cause)) := by
  unfold acceptToEnd at h
  cases hlines : s.acceptAll E.logged Recording.report xs with
  | mk taken s' =>
    rw [hlines] at h
    cases taken with
    | error e' =>
      cases h
      obtain ⟨-, -, -, hat⟩ := acceptAll_tells hlines
      exact .inl ⟨rfl, hat e rfl⟩
    | ok u =>
      obtain ⟨-, hcause⟩ := leave_error h
      exact .inr ⟨rfl, hcause⟩

/-- The stage with no call made and nothing told yet. -/
def afresh (s : Stage (Logged σ) Recording) : Stage (Logged σ) Recording :=
  { interpreter := s.interpreter, executor := { state := s.executor.state }, reporter := {} }

/-- Lines are taken as they are afresh, behind what has been called and told. -/
theorem acceptToEnd_behind (E : Executor σ) (s : Stage (Logged σ) Recording) (n : Nat)
    (lines : List Line) (source : String) (lastLine : Nat) :
    Alike n (Behind n s.executor.calls s.reporter.events)
      (s.afresh.acceptToEnd E.logged Recording.report lines source lastLine)
      (s.acceptToEnd E.logged Recording.report (lines.map (.shift n)) source (lastLine + n)) := by
  have hsimulation := behind_simulation E n s.executor.calls s.reporter.events
  have hbeside : s.afresh.Beside (Behind n s.executor.calls s.reporter.events) s :=
    ⟨.refl _, rfl, (List.append_nil _).symm, (List.append_nil _).symm⟩
  exact hsimulation.acceptToEnd (hsimulation.acceptAll hbeside lines) source lastLine

/-- Behind the line, both runs go on as one that starts there afresh. -/
theorem acceptToEnd_insert (ht : line.token = .text)
    (h : s.acceptAll E.logged Recording.report xs = (.ok (), s')) (ys : List Line)
    (source : String) (lastLine : Nat) :
    let old := s.acceptToEnd E.logged Recording.report (xs ++ ys) source lastLine
    let new := s.acceptToEnd E.logged Recording.report (xs ++ line :: ys.map (.shift 1)) source
      (lastLine + 1)
    new.1 = old.1.mapError (.shift 1) ∧ new.2.executor = old.2.executor ∧
      ∃ later, old.2.reporter.events = s'.reporter.events ++ later ∧
        new.2.reporter.events = s'.reporter.events ++ .text line :: later.map (.shift 1) ∧
        ∀ e ∈ later, ∃ l ∈ ys, Tells l e := by
  intro old new
  let told : Stage (Logged σ) Recording :=
    { s' with reporter := Recording.report s'.reporter (.text line) }
  have hnew : new = told.acceptToEnd E.logged Recording.report (ys.map (.shift 1)) source
      (lastLine + 1) := by
    simp only [new, acceptToEnd_append h]
    simp only [acceptToEnd, acceptAll, accept, ht, told]
  let third := s'.afresh.acceptToEnd E.logged Recording.report ys source lastLine
  have hold := acceptToEnd_behind E s' 0 ys source lastLine
  rw [Line.map_shift_zero, Nat.add_zero, ← acceptToEnd_append h] at hold
  have halike : Alike 1 (Behind 1 told.executor.calls told.reporter.events) third new := by
    rw [hnew]
    exact acceptToEnd_behind E told 1 ys source lastLine
  have houtcome : old.1 = third.1 :=
    hold.outcome.trans (InterpretError.mapError_shift_zero third.1)
  refine ⟨?_, hold.states.executor_eq halike.states, third.2.reporter.events, ?_, ?_, ?_⟩
  · rw [houtcome]
    exact halike.outcome
  · exact hold.states.events.trans (by rw [Event.map_shift_zero])
  · simpa [told, Recording.report] using halike.states.events
  · obtain ⟨events, hreporter, hevents, -⟩ := acceptAll_tells (s := s'.afresh) rfl
    rw [← acceptToEnd_reporter, Recording.reportAll_eq] at hreporter
    rw [hreporter]
    exact hevents

/-- A line of text behind line `n` changes neither calls nor states nor what is told of the other
lines, but for their numbers. -/
theorem acceptToEnd_text {n : Nat} (hs : s.reporter.events = []) (ht : line.token = .text)
    (hxs : ∀ l ∈ xs, l.number ≤ n) (hys : ∀ l ∈ ys, n < l.number) (source : String)
    (lastLine : Nat) :
    let old := s.acceptToEnd E.logged Recording.report (xs ++ ys) source lastLine
    let new := s.acceptToEnd E.logged Recording.report (xs ++ line :: ys.map (.shift 1)) source
      (lastLine + 1)
    let ends := (s.acceptAll E.logged Recording.report (xs ++ ys)).1 = .ok ()
    new.2.executor = old.2.executor ∧
    new.2.reporter.events.filter (!·.isText) =
      (old.2.reporter.events.filter (!·.isText)).map (.makeRoom n) ∧
    (new.1 = .ok () ↔ old.1 = .ok ()) ∧
    ∀ e, old.1 = .error e →
      (¬ ends → new.1 = .error (e.makeRoom n)) ∧
      (ends → ∃ cause, e = .lifecycle source lastLine (.tearDown cause) ∧
        new.1 = .error (.lifecycle source (lastLine + 1) (.tearDown cause))) := by
  intro old new ends
  cases hbehind : s.acceptAll E.logged Recording.report xs with
  | mk taken s' =>
    obtain ⟨told, hreporter, htold, herror⟩ := acceptAll_tells hbehind
    rw [Recording.reportAll_eq, hs] at hreporter
    have htold' : ∀ e ∈ told, ∃ l, l.number ≤ n ∧ Tells l e := fun e he =>
      (htold e he).imp fun l h => h.imp_left (hxs l)
    cases taken with
    | error err =>
      have hold : old = (.error err, s') := acceptToEnd_append_of_error hbehind _ _ _
      have hnew : new = (.error err, s') := acceptToEnd_append_of_error hbehind _ _ _
      rw [hold, hnew]
      refine ⟨rfl, ?_, Iff.rfl, ?_⟩
      · rw [Event.filter_makeRoom, hreporter, List.nil_append, Event.map_makeRoom_of_le htold']
      · rintro e ⟨⟩
        obtain ⟨l, hl, hat⟩ := herror err rfl
        refine ⟨fun _ => ?_, fun hend => ?_⟩
        · rw [InterpretError.makeRoom_of_le hat (hxs l hl)]
        · simp only [ends, acceptAll_append, hbehind] at hend
          cases hend
    | ok u =>
      obtain ⟨houtcome, hexecutor, later, hevents, hevents', hlater⟩ :=
        acceptToEnd_insert ht hbehind ys source lastLine
      rw [hreporter] at hevents hevents'
      have hlater' : ∀ e ∈ later, ∃ l, n < l.number ∧ Tells l e := fun e he =>
        (hlater e he).imp fun l h => h.imp_left (hys l)
      refine ⟨hexecutor, ?_, ?_, fun e he => ?_⟩
      · rw [Event.filter_makeRoom, hevents, hevents', List.map_append, List.nil_append,
          Event.map_makeRoom_of_le htold', Event.map_makeRoom_of_lt hlater']
        simp [Event.isText]
      · rw [houtcome]
        cases old.1 <;> simp [Except.mapError]
      · rw [houtcome, he]
        simp only [old, acceptToEnd_append hbehind] at he
        simp only [ends, acceptAll_append, hbehind]
        rcases acceptToEnd_error he with ⟨hstop, l, hl, hat⟩ | ⟨hend, cause, rfl⟩
        · refine ⟨fun _ => ?_, fun hend => ?_⟩
          · rw [InterpretError.makeRoom_of_lt hat (hys l hl)]
            rfl
          · rw [hstop] at hend
            cases hend
        · exact ⟨fun h => absurd hend h, fun _ => ⟨cause, rfl, rfl⟩⟩

end Stage

/-! ## Scripts with the line -/

section

variable {before : List String} {t : String}

theorem length_scriptLines {ls : List String} (h : ∀ l ∈ ls, Text.IsLine l) (source : String) :
    (scriptLines (textOfLines ls) source).length = ls.length := by
  simp [scriptLines, Text.lines_textOfLines h]

theorem scriptLines_cons (ht : Text.IsLine t) (ls : List String) (source : String) :
    scriptLines (textOfLines (t :: ls)) source =
      ⟨t, 1, source⟩ :: (scriptLines (textOfLines ls) source).map (.shift 1) := by
  have hfirst : scriptLines (t ++ "\n") source = [⟨t, 1, source⟩] := by
    rw [scriptLines, Text.lines_line ht]
    simp
  rw [Text.textOfLines_cons, scriptLines_append (.inr (by simp)), hfirst]
  rfl

/-- The line is numbered behind the lines before it, and the others are numbered on. -/
theorem scriptLines_insert (hbefore : ∀ l ∈ before, Text.IsLine l) (ht : Text.IsLine t)
    (after : List String) (source : String) :
    ∃ xs ys, scriptLines (textOfLines (before ++ after)) source = xs ++ ys ∧
      scriptLines (textOfLines (before ++ t :: after)) source =
        xs ++ ⟨t, before.length + 1, source⟩ :: ys.map (.shift 1) ∧
      (∀ l ∈ xs, l.number ≤ before.length) ∧ ∀ l ∈ ys, before.length < l.number := by
  have happend := fun ls => scriptLines_append (Text.textOfLines_ends before) (textOfLines ls) source
  simp only [← Text.textOfLines_append, length_scriptLines hbefore] at happend
  refine ⟨_, _, happend after, ?_, fun l hl => ?_, fun l hl => ?_⟩
  · rw [happend, scriptLines_cons ht, List.map_cons, List.map_map, List.map_map]
    have hshift : (Line.shift 1 ∘ Line.shift before.length : Line → Line) =
        Line.shift before.length ∘ Line.shift 1 :=
      funext fun l => congrArg (Line.mk l.text · l.source) (Nat.add_right_comm _ _ _)
    rw [hshift, Line.shift, Nat.add_comm]
  · obtain ⟨i, hi⟩ := List.getElem?_of_mem hl
    have hlength := (List.getElem?_eq_some_iff.mp hi).1
    rw [length_scriptLines hbefore] at hlength
    have := (scriptLines_getElem hi).1
    omega
  · obtain ⟨l', hl', rfl⟩ := List.mem_map.mp hl
    obtain ⟨i, hi⟩ := List.getElem?_of_mem hl'
    have := (scriptLines_getElem hi).1
    show before.length < l'.number + before.length
    omega

end

/-- Plain text is inert. Put into a script of written lines at any place, it changes neither the
calls nor the states of the executor; the headings and the steps that are told are the same, numbered
on behind the place. A run that ends well still does. The error of any other is the same at its line,
numbered on behind the place; a tear-down that fails at the end is put down to the new last line. -/
theorem text_is_inert (E : Executor σ) (x : σ) {before after : List String} {t : String}
    (source : String) (hlines : ∀ l ∈ before ++ t :: after, Text.IsLine l)
    (ht : classify t = .text) :
    let start : Stage (Logged σ) Recording := { executor := { state := x }, reporter := {} }
    let run lines := interpret E.logged Recording.report { state := x } {} (textOfLines lines) source
    let old := run (before ++ after)
    let new := run (before ++ t :: after)
    let last := (before ++ after).length
    let ends := start.Reaches E.logged Recording.report
      (scriptLines (textOfLines (before ++ after)) source) last
    (∀ lines, interpret E Recording.report x {} (textOfLines lines) source =
      ((run lines).1, (run lines).2.map Logged.state id)) ∧
    new.2.executor = old.2.executor ∧
    new.2.reporter.events.filter (!·.isText) =
      (old.2.reporter.events.filter (!·.isText)).map (.makeRoom before.length) ∧
    (new.1 = .ok () ↔ old.1 = .ok ()) ∧
    ∀ e, old.1 = .error e →
      (¬ ends → new.1 = .error (e.makeRoom before.length)) ∧
      (ends → ∃ cause, e = .lifecycle source last (.tearDown cause) ∧
        new.1 = .error (.lifecycle source (last + 1) (.tearDown cause))) := by
  intro start run old new last ends
  refine ⟨fun lines => interpret_logged E Recording.report { state := x } {} _ source, ?_⟩
  rw [List.forall_mem_append, List.forall_mem_cons] at hlines
  obtain ⟨hbefore, hline, hafter⟩ := hlines
  obtain ⟨xs, ys, hxys, hxtys, hxs, hys⟩ := scriptLines_insert hbefore hline after source
  have hlast : last = (xs ++ ys).length := by
    rw [← hxys]
    exact (length_scriptLines (List.forall_mem_append.mpr ⟨hbefore, hafter⟩) source).symm
  have hold : old = start.acceptToEnd E.logged Recording.report (xs ++ ys) source last := by
    rw [hlast, ← hxys]
    exact Stage.interpret_eq_acceptToEnd E.logged Recording.report start _ source
  have hnew : new = start.acceptToEnd E.logged Recording.report
      (xs ++ ⟨t, before.length + 1, source⟩ :: ys.map (.shift 1)) source (last + 1) := by
    have hlength : last + 1 =
        (xs ++ (⟨t, before.length + 1, source⟩ : Line) :: ys.map (Line.shift 1)).length := by
      rw [hlast]
      simp [Nat.add_assoc]
    rw [hlength, ← hxtys]
    exact Stage.interpret_eq_acceptToEnd E.logged Recording.report start _ source
  have hends : ends = ((start.acceptAll E.logged Recording.report (xs ++ ys)).1 = .ok ()) := by
    simp only [ends, Stage.Reaches, hxys, hlast, Stage.upTo_length]
  have htoken : (⟨t, before.length + 1, source⟩ : Line).token = .text := ht
  rw [hold, hnew, hends]
  exact Stage.acceptToEnd_text rfl htoken hxs hys source last

/-- A line of text between a step and a scenario in which a conjunction dangles. -/
theorem text_is_inert_before_dangling :
    let before := ["Given x"]
    let after := ["Scenario: b", "And z"]
    let run lines :=
      interpret Executor.null.logged Recording.report { state := () } {} (textOfLines lines) "s"
    let old := run (before ++ after)
    let new := run (before ++ "in order to" :: after)
    new.2.executor = old.2.executor ∧
    new.2.reporter.events.filter (!·.isText) =
      (old.2.reporter.events.filter (!·.isText)).map (.makeRoom 1) ∧
    old.1 = .error (.danglingConjunction .and ⟨"And z", 3, "s"⟩) ∧
    new.1 = .error (.danglingConjunction .and ⟨"And z", 4, "s"⟩) := by
  intro before after run old new
  have hlines : ∀ l ∈ before ++ "in order to" :: after, Text.IsLine l := by decide +kernel
  have hold : old.1 = .error (.danglingConjunction .and ⟨"And z", 3, "s"⟩) := by decide +kernel
  obtain ⟨-, hexecutor, hevents, -, herror⟩ :=
    text_is_inert Executor.null () "s" hlines (by decide +kernel)
  obtain ⟨hstop, -⟩ := herror _ hold
  have hdangles := hstop (by unfold Stage.Reaches; decide +kernel)
  dsimp only [old, new, run] at hexecutor hevents ⊢
  exact ⟨hexecutor, hevents, hold, hdangles⟩

end FeatureScript
