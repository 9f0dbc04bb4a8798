import FeatureScript.Proofs.Script.Progress

/-!
# FeatureScript.Proofs.Script.Transcript

The events of a run, and the place of its error.

`Stage.Narrates` says that a list of events tells some lines one by one: the heading with its label,
the step with the result of the one call made for it, or the plain text. `one_event_per_line`: a run
that ends well narrates all lines of its script; a run that is stopped names the line in its error
and narrates the lines before it, and all lines if it is stopped by the tear-down at the end.
-/

namespace FeatureScript

variable {σ : Type}

namespace InterpretError

/-- The script an error is put down to. -/
def source : InterpretError → String
  | .danglingConjunction _ line => line.source
  | .lifecycle source _ _ => source

/-- The number of the line an error is put down to. -/
def number : InterpretError → Nat
  | .danglingConjunction _ line => line.number
  | .lifecycle _ number _ => number

theorem At.source_eq {line : Line} {e : InterpretError} (h : e.At line) :
    e.source = line.source := by
  cases e with
  | danglingConjunction k l => cases h; rfl
  | lifecycle source number cause => exact h.1

theorem At.number_eq {line : Line} {e : InterpretError} (h : e.At line) :
    e.number = line.number := by
  cases e with
  | danglingConjunction k l => cases h; rfl
  | lifecycle source number cause => exact h.2

end InterpretError

/-- Lines are numbered from one and named after their script. -/
theorem scriptLines_getElem {text source : String} {i : Nat} {line : Line}
    (h : (scriptLines text source)[i]? = some line) :
    line.number = i + 1 ∧ line.source = source ∧
      (Text.lines text.toList)[i]? = some line.text.toList := by
  rw [scriptLines, List.getElem?_map, List.getElem?_zipIdx, Option.map_map] at h
  obtain ⟨cs, hcs, rfl⟩ := Option.map_eq_some_iff.mp h
  exact ⟨Nat.add_comm 1 i, rfl, by simpa using hcs⟩

/-- The end of a script fails only by tearing down a scenario that is open. -/
theorem Lifecycle.leave_error {E : Executor σ} {l l' : Lifecycle} {x x' : σ} {e : LifecycleError}
    (h : l.leave E x = (.error e, l', x')) : l.isOpen = true ∧ ∃ cause, e = .tearDown cause := by
  unfold leave at h
  unfold isOpen
  cases hl : l.session with
  | none => rw [hl] at h; cases h
  | some session =>
    simp only [hl] at h
    cases hdown : E.tearDown x with
    | mk answer y =>
      rw [hdown] at h
      cases answer with
      | ok u => cases h
      | error cause => cases h; exact ⟨rfl, cause, rfl⟩

namespace Stage

variable {E : Executor σ} {s : Stage (Logged σ) Recording} {lines : List Line} {n : Nat}

/-- The events are those of the first `n` lines, one for each. -/
def Narrates (E : Executor σ) (s : Stage (Logged σ) Recording) (lines : List Line) (n : Nat)
    (events : List Event) : Prop :=
  events.length = n ∧ ∀ i < n, ∃ line e, lines[i]? = some line ∧ events[i]? = some e ∧
    Recounts (s.callsAt E Recording.report lines i) line e

theorem Narrates.snoc {events : List Event} {line : Line} {e : Event}
    (h : s.Narrates E lines n events) (hline : lines[n]? = some line)
    (he : Recounts (s.callsAt E Recording.report lines n) line e) :
    s.Narrates E lines (n + 1) (events ++ [e]) := by
  obtain ⟨hlen, hevents⟩ := h
  refine ⟨by simp [hlen], fun i hi => ?_⟩
  rcases Nat.lt_succ_iff_lt_or_eq.mp hi with hi | rfl
  · obtain ⟨line', e', hline', he', hrec⟩ := hevents i hi
    exact ⟨line', e', hline', by rw [List.getElem?_append_left (by omega), he'], hrec⟩
  · exact ⟨line, e, hline, by rw [← hlen, List.getElem?_concat_length], he⟩

theorem narrates_upTo (hs : s.reporter.events = [])
    (hreach : s.Reaches E.logged Recording.report lines n) (hn : n ≤ lines.length) :
    s.Narrates E lines n (s.upTo E.logged Recording.report lines n).2.reporter.events := by
  induction n with
  | zero => exact ⟨by rw [upTo_zero, hs]; rfl, fun i hi => absurd hi (Nat.not_lt_zero i)⟩
  | succ n ih =>
    have hreach' := hreach.of_le (Nat.le_succ n)
    have hline : lines[n]? = some lines[n] := List.getElem?_eq_getElem hn
    obtain ⟨-, -, -, hmoves⟩ := at_line hline hreach'
    rw [Reaches] at hreach
    rw [hreach] at hmoves
    obtain ⟨-, e, hrec, hreporter⟩ := hmoves
    rw [hreporter]
    exact (ih hreach' (Nat.le_of_succ_le hn)).snoc hline hrec

theorem narrates_of_stop {text source : String} {e : InterpretError} (hs : s.reporter.events = [])
    (hlines : lines = scriptLines text source)
    (herror : (s.acceptAll E.logged Recording.report lines).1 = .error e) :
    1 ≤ e.number ∧ e.number ≤ lines.length ∧ e.source = source ∧
      (∀ k line, e = .danglingConjunction k line →
        lines[e.number - 1]? = some line ∧ ∃ t, line.token = .step k t) ∧
      s.Narrates E lines (e.number - 1)
        (s.acceptAll E.logged Recording.report lines).2.reporter.events := by
  obtain ⟨i, line, hline, hreach, hat, hans, hreporter⟩ := exists_error_line herror
  have hi : i < lines.length := (List.getElem?_eq_some_iff.mp hline).1
  have hplace := scriptLines_getElem (hlines ▸ hline)
  have hnumber : e.number = i + 1 := hat.number_eq.trans hplace.1
  rw [hnumber, hreporter]
  refine ⟨by omega, hi, hat.source_eq.trans hplace.2.1, ?_,
    narrates_upTo hs hreach (Nat.le_of_lt hi)⟩
  rintro k l rfl
  cases hat
  obtain ⟨-, t, -, ht, -⟩ := hans.account
  exact ⟨hline, t, ht⟩

theorem leave_reporter {σ ρ : Type} (E : Executor σ) (s : Stage σ ρ) (source : String)
    (number : Nat) : (s.leave E source number).2.reporter = s.reporter := rfl

/-- The events of a script all of whose lines are taken; its end tells nothing. -/
theorem narrates_of_ok {s' : Stage (Logged σ) Recording} {text source : String}
    (hs : s.reporter.events = []) (hlines : lines = scriptLines text source)
    (h : s.acceptAll E.logged Recording.report lines = (.ok (), s')) :
    s.Reaches E.logged Recording.report lines lines.length ∧
      s.Narrates E lines lines.length
        (s.interpret E.logged Recording.report text source).2.reporter.events := by
  have hend : s.Reaches E.logged Recording.report lines lines.length := by
    rw [Reaches, upTo_length, h]
  have hnarrates := narrates_upTo hs hend (Nat.le_refl _)
  rw [upTo_length, h] at hnarrates
  rw [interpret_of_ok (hlines ▸ h), leave_reporter]
  exact ⟨hend, hnarrates⟩

/-- Closing fails only by tearing down a scenario that is open. -/
theorem leave_error {σ ρ : Type} {E : Executor σ} {s : Stage σ ρ} {source : String} {number : Nat}
    {e : InterpretError} (h : (s.leave E source number).1 = .error e) :
    s.interpreter.lifecycle.isOpen = true ∧
      ∃ cause, e = .lifecycle source number (.tearDown cause) := by
  rw [leave] at h
  cases hleave : s.interpreter.lifecycle.leave E s.executor with
  | mk left rest =>
    rw [hleave] at h
    cases left with
    | ok u => cases h
    | error failure =>
      obtain ⟨hopen, cause, rfl⟩ := Lifecycle.leave_error hleave
      cases h
      exact ⟨hopen, cause, rfl⟩

/-- At the end of a script only tear-down fails, and there is a last line to put it down to. -/
theorem leave_at_end {s' : Stage (Logged σ) Recording} {source : String} {e : InterpretError}
    (hs : s.interpreter = .fresh)
    (hlines : s.acceptAll E.logged Recording.report lines = (.ok (), s'))
    (h : (s'.leave E.logged source lines.length).1 = .error e) :
    0 < lines.length ∧ ∃ cause, e = .lifecycle source lines.length (.tearDown cause) := by
  obtain ⟨hopen, hcause⟩ := leave_error h
  refine ⟨?_, hcause⟩
  -- a scenario is open, so there is a line that opened it
  rw [List.length_pos_iff]
  rintro rfl
  cases hlines
  rw [hs] at hopen
  cases hopen

theorem interpret_narrates (hs : s.reporter.events = []) (text source : String) :
    ∃ n, s.Narrates E (scriptLines text source) n
      (s.interpret E.logged Recording.report text source).2.reporter.events := by
  cases hlines : s.acceptAll E.logged Recording.report (scriptLines text source) with
  | mk outcome s' =>
    cases outcome with
    | error e =>
      have herror : (s.acceptAll E.logged Recording.report (scriptLines text source)).1 =
          .error e := by rw [hlines]
      obtain ⟨-, -, -, -, hnarrates⟩ := narrates_of_stop hs rfl herror
      rw [interpret_of_error hlines]
      rw [hlines] at hnarrates
      exact ⟨_, hnarrates⟩
    | ok u =>
      exact ⟨_, (narrates_of_ok hs rfl hlines).2⟩

end Stage

/-- One event for each line, and the place of an error: a run that ends well narrates all lines; an
error is put down to a line of the script, and the lines before it are narrated; at the end of the
script only tear-down fails, and is put down to the last line. -/
theorem one_event_per_line (E : Executor σ) (x : σ) (text source : String) :
    let lines := scriptLines text source
    let start : Stage (Logged σ) Recording := { executor := { state := x }, reporter := {} }
    let run := interpret E.logged Recording.report { state := x } {} text source
    let events := run.2.reporter.events
    interpret E Recording.report x {} text source = (run.1, run.2.map Logged.state id) ∧
    (∀ i line, lines[i]? = some line → line.number = i + 1 ∧ line.source = source ∧
      (Text.lines text.toList)[i]? = some line.text.toList) ∧
    match run.1 with
    | .ok () => start.Narrates E lines lines.length events
    | .error e => 1 ≤ e.number ∧ e.number ≤ lines.length ∧ e.source = source ∧
        (∀ k line, e = .danglingConjunction k line →
          lines[e.number - 1]? = some line ∧ ∃ t, line.token = .step k t) ∧
        (¬ start.Reaches E.logged Recording.report lines lines.length →
          start.Narrates E lines (e.number - 1) events) ∧
        (start.Reaches E.logged Recording.report lines lines.length →
          (∃ cause, e = .lifecycle source lines.length (.tearDown cause)) ∧
          start.Narrates E lines lines.length events) := by
  intro lines start run events
  refine ⟨interpret_logged E Recording.report { state := x } {} text source,
    fun i line h => scriptLines_getElem h, ?_⟩
  cases hlines : start.acceptAll E.logged Recording.report lines with
  | mk outcome s' =>
    cases outcome with
    | error e =>
      have hrun : run = (.error e, s') := Stage.interpret_of_error hlines
      clear_value run
      subst hrun
      have herror : (start.acceptAll E.logged Recording.report lines).1 = .error e := by rw [hlines]
      obtain ⟨hlow, hhigh, hsource, hdangling, hnarrates⟩ :=
        Stage.narrates_of_stop (s := start) rfl rfl herror
      rw [hlines] at hnarrates
      refine ⟨hlow, hhigh, hsource, hdangling, fun _ => hnarrates, fun hend => ?_⟩
      rw [Stage.Reaches, Stage.upTo_length, herror] at hend
      cases hend
    | ok u =>
      obtain ⟨hend, hnarrates⟩ := Stage.narrates_of_ok (s := start) rfl rfl hlines
      cases hrun : run.1 with
      | ok u => exact hnarrates
      | error e =>
        have hleave : (s'.leave E.logged source lines.length).1 = .error e := by
          rw [← Stage.interpret_of_ok hlines]
          exact hrun
        obtain ⟨hpos, cause, rfl⟩ := Stage.leave_at_end (s := start) rfl hlines hleave
        exact ⟨hpos, Nat.le_refl _, rfl, fun k l h => (by cases h), fun h => absurd hend h,
          fun _ => ⟨⟨cause, rfl⟩, hnarrates⟩⟩

end FeatureScript
