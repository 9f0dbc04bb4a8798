import FeatureScript.Proofs.Script.Run

/-!
# FeatureScript.Proofs.Script.Progress

A run seen line by line.

`Stage.upTo` is the run of the first `i` lines, `Stage.Reaches` says that nothing stops it, and
`Stage.callsAt` are the calls made while line `i` is taken. Lines are counted from zero here: line
`i` is the one numbered `i + 1`. `Stage.at_line` says what happens at a line that is reached,
`Stage.exists_stop` finds the line at which a run is stopped.
-/

namespace FeatureScript

variable {σ ρ : Type}

namespace Stage

/-- Taking the first `i` lines. -/
def upTo (E : Executor σ) (R : Reporter ρ) (s : Stage σ ρ) (lines : List Line) (i : Nat) :
    Except InterpretError Unit × Stage σ ρ :=
  s.acceptAll E R (lines.take i)

/-- Nothing stops the run before line `i`. -/
def Reaches (E : Executor σ) (R : Reporter ρ) (s : Stage σ ρ) (lines : List Line) (i : Nat) :
    Prop :=
  (s.upTo E R lines i).1 = .ok ()

/-- The calls made while line `i` is taken. -/
def callsAt (E : Executor σ) (R : Reporter ρ) (s : Stage (Logged σ) ρ) (lines : List Line)
    (i : Nat) : List Call :=
  (s.upTo E.logged R lines (i + 1)).2.executor.calls.drop
    (s.upTo E.logged R lines i).2.executor.calls.length

section

variable {E : Executor σ} {R : Reporter ρ} {s : Stage σ ρ} {lines : List Line} {i : Nat}

theorem acceptAll_append (s : Stage σ ρ) (xs ys : List Line) :
    s.acceptAll E R (xs ++ ys) =
      match s.acceptAll E R xs with
      | (.ok (), s') => s'.acceptAll E R ys
      | failed => failed := by
  induction xs generalizing s with
  | nil => rfl
  | cons line rest ih =>
    simp only [List.cons_append, acceptAll]
    obtain ⟨outcome, s'⟩ := s.accept E R line
    cases outcome with
    | ok u => exact ih s'
    | error e => rfl

theorem interpret_of_ok {s' : Stage σ ρ} {text source : String}
    (h : s.acceptAll E R (scriptLines text source) = (.ok (), s')) :
    s.interpret E R text source = s'.leave E source (scriptLines text source).length := by
  simp only [interpret, h, finish]

theorem interpret_of_error {s' : Stage σ ρ} {e : InterpretError} {text source : String}
    (h : s.acceptAll E R (scriptLines text source) = (.error e, s')) :
    s.interpret E R text source = (.error e, s') := by
  simp only [interpret, h]

/-- The end of a script does not dangle. -/
theorem interpret_dangling_iff {text source : String} {k : Keyword} {line : Line} :
    (s.interpret E R text source).1 = .error (.danglingConjunction k line) ↔
      (s.acceptAll E R (scriptLines text source)).1 = .error (.danglingConjunction k line) := by
  cases hlines : s.acceptAll E R (scriptLines text source) with
  | mk outcome s' =>
    cases outcome with
    | error e => rw [interpret_of_error hlines]
    | ok u =>
      rw [interpret_of_ok hlines, leave]
      obtain ⟨left, rest⟩ := s'.interpreter.lifecycle.leave E s'.executor
      cases left with
      | ok u => exact ⟨fun h => (by cases h), fun h => (by cases h)⟩
      | error e => exact ⟨fun h => (by cases h), fun h => (by cases h)⟩

theorem upTo_zero : s.upTo E R lines 0 = (.ok (), s) := rfl

theorem upTo_length : s.upTo E R lines lines.length = s.acceptAll E R lines := by
  rw [upTo, List.take_length]

theorem upTo_succ {line : Line} (hline : lines[i]? = some line) (h : s.Reaches E R lines i) :
    s.upTo E R lines (i + 1) = (s.upTo E R lines i).2.accept E R line := by
  unfold Reaches at h
  rw [upTo, List.take_add_one, hline, acceptAll_append, ← upTo]
  cases hup : s.upTo E R lines i with
  | mk outcome s' =>
    rw [hup] at h
    cases h
    simp only [Option.toList_some, acceptAll]
    obtain ⟨outcome, s''⟩ := s'.accept E R line
    cases outcome <;> rfl

theorem upTo_succ_of_not_reaches (h : ¬ s.Reaches E R lines i) :
    s.upTo E R lines (i + 1) = s.upTo E R lines i := by
  unfold Reaches at h
  rw [upTo, List.take_add_one, acceptAll_append, ← upTo]
  cases hup : s.upTo E R lines i with
  | mk outcome s' =>
    rw [hup] at h
    cases outcome with
    | ok u => cases h rfl
    | error e => rfl

theorem exists_stop {n : Nat} (h : ¬ s.Reaches E R lines n) :
    ∃ i, i < n ∧ s.Reaches E R lines i ∧ s.upTo E R lines (i + 1) = s.upTo E R lines n := by
  induction n with
  | zero => cases h rfl
  | succ n ih =>
    by_cases hn : s.Reaches E R lines n
    · exact ⟨n, Nat.lt_succ_self n, hn, rfl⟩
    · obtain ⟨i, hi, hreach, hrun⟩ := ih hn
      exact ⟨i, Nat.lt_succ_of_lt hi, hreach, hrun.trans (upTo_succ_of_not_reaches hn).symm⟩

theorem upTo_of_stop {n : Nat} (h : ¬ s.Reaches E R lines i) (hi : i ≤ n) :
    s.upTo E R lines n = s.upTo E R lines i := by
  induction hi with
  | refl => rfl
  | @step n _ ih =>
    have hn : ¬ s.Reaches E R lines n := by rwa [Reaches, ih]
    rw [upTo_succ_of_not_reaches hn, ih]

/-- An error raised at a line is the error of the run. -/
theorem acceptAll_of_stop {line : Line} {e : InterpretError} (hline : lines[i]? = some line)
    (h : (s.upTo E R lines (i + 1)).1 = .error e) : (s.acceptAll E R lines).1 = .error e := by
  have hlt : i < lines.length := (List.getElem?_eq_some_iff.mp hline).1
  have hstop : ¬ s.Reaches E R lines (i + 1) := by
    rw [Reaches, h]
    simp
  rw [← upTo_length, upTo_of_stop hstop hlt, h]

theorem Reaches.of_le {n : Nat} (h : s.Reaches E R lines n) (hi : i ≤ n) :
    s.Reaches E R lines i := by
  by_cases hreach : s.Reaches E R lines i
  · exact hreach
  · rw [Reaches, upTo_of_stop hreach hi] at h
    exact h

end

section

variable {E : Executor σ} {R : Reporter ρ} {s : Stage (Logged σ) ρ} {lines : List Line} {i : Nat}

theorem at_line {line : Line} (hline : lines[i]? = some line)
    (h : s.Reaches E.logged R lines i) :
    (s.upTo E.logged R lines i).2.interpreter =
        s.interpreter.after ((lines.map Line.token).take i) ∧
      (s.upTo E.logged R lines i).2.executor.Adds E (s.callsAt E R lines i)
        (s.upTo E.logged R lines (i + 1)).2.executor ∧
      Answers ((s.upTo E.logged R lines i).2.interpreter.acts line.token)
        (s.callsAt E R lines i) (s.upTo E.logged R lines (i + 1)).1 ∧
      (s.upTo E.logged R lines i).2.Moves R line (s.callsAt E R lines i)
        (s.upTo E.logged R lines (i + 1)).2 (s.upTo E.logged R lines (i + 1)).1 := by
  have hbefore : s.upTo E.logged R lines i =
      ((s.upTo E.logged R lines i).1, (s.upTo E.logged R lines i).2) := rfl
  have hline' : (s.upTo E.logged R lines i).2.accept E.logged R line =
      ((s.upTo E.logged R lines (i + 1)).1, (s.upTo E.logged R lines (i + 1)).2) :=
    (upTo_succ hline h).symm
  obtain ⟨-, -, -, hafter⟩ := acceptAll_spec hbefore
  obtain ⟨calls, hadds, hans, hmoves⟩ := accept_spec hline'
  have hcalls : s.callsAt E R lines i = calls := by rw [callsAt, hadds.log, List.drop_left]
  rw [hcalls]
  exact ⟨by rw [hafter h, List.map_take], hadds, hans, hmoves⟩

theorem exists_error_line {e : InterpretError}
    (h : (s.acceptAll E.logged R lines).1 = .error e) :
    ∃ i line, lines[i]? = some line ∧ s.Reaches E.logged R lines i ∧ e.At line ∧
      Answers ((s.interpreter.after ((lines.map Line.token).take i)).acts line.token)
        (s.callsAt E R lines i) (.error e) ∧
      (s.acceptAll E.logged R lines).2.reporter = (s.upTo E.logged R lines i).2.reporter := by
  have hstop : ¬ s.Reaches E.logged R lines lines.length := by
    rw [Reaches, upTo_length, h]
    simp
  obtain ⟨i, hi, hreach, hrun⟩ := exists_stop hstop
  rw [upTo_length] at hrun
  have hline : lines[i]? = some lines[i] := List.getElem?_eq_getElem hi
  obtain ⟨hinterpreter, -, hans, hmoves⟩ := at_line hline hreach
  rw [hrun, h] at hmoves hans
  rw [hinterpreter] at hans
  exact ⟨i, lines[i], hline, hreach, hmoves.1, hans, hmoves.2⟩

theorem callsAt_of_not_reaches (h : ¬ s.Reaches E.logged R lines i) :
    s.callsAt E R lines i = [] := by
  rw [callsAt, upTo_succ_of_not_reaches h, List.drop_length]

theorem callsAt_of_length_le (h : lines.length ≤ i) : s.callsAt E R lines i = [] := by
  rw [callsAt, upTo, upTo, List.take_of_length_le h, List.take_of_length_le (by omega),
    List.drop_length]

theorem upTo_adds (E : Executor σ) (R : Reporter ρ) (s : Stage (Logged σ) ρ) (lines : List Line)
    (i : Nat) :
    s.executor.Adds E ((List.range i).flatMap (s.callsAt E R lines))
      (s.upTo E.logged R lines i).2.executor := by
  induction i with
  | zero => exact .refl _
  | succ i ih =>
    rw [List.range_succ, List.flatMap_append, List.flatMap_singleton]
    refine ih.trans ?_
    by_cases hreach : s.Reaches E.logged R lines i
    · cases hline : lines[i]? with
      | some line => exact (at_line hline hreach).2.1
      | none =>
        have hi : lines.length ≤ i := List.getElem?_eq_none_iff.mp hline
        rw [callsAt_of_length_le hi, upTo, upTo, List.take_of_length_le hi,
          List.take_of_length_le (by omega)]
        exact .refl _
    · rw [callsAt_of_not_reaches hreach, upTo_succ_of_not_reaches hreach]
      exact .refl _

/-- The calls of a run are those of its lines, then those of its end, which executes nothing. -/
theorem interpret_calls (E : Executor σ) (R : Reporter ρ) (s : Stage (Logged σ) ρ)
    (text source : String) :
    ∃ atEnd, (s.interpret E.logged R text source).2.executor.calls =
        s.executor.calls ++ (List.range (scriptLines text source).length).flatMap
          (s.callsAt E R (scriptLines text source)) ++ atEnd ∧
      ∀ k t result, Call.execute k t result ∉ atEnd := by
  have hlog := (upTo_adds E R s (scriptLines text source) (scriptLines text source).length).log
  rw [upTo_length] at hlog
  cases hlines : s.acceptAll E.logged R (scriptLines text source) with
  | mk outcome s' =>
    rw [hlines] at hlog
    cases outcome with
    | error e =>
      rw [interpret_of_error hlines]
      exact ⟨[], by rw [List.append_nil, hlog], by simp⟩
    | ok u =>
      rw [interpret_of_ok hlines, leave]
      cases hleave : s'.interpreter.lifecycle.leave E.logged s'.executor with
      | mk left rest =>
        obtain ⟨calls, hcalls, -, hans⟩ := Lifecycle.leave_spec hleave source 0
        refine ⟨calls, by rw [← hlog]; exact hcalls.log, fun k t result hmem => ?_⟩
        have hact := hans.mem_acts hmem
        unfold Lifecycle.closing at hact
        split at hact <;> simp [Call.act] at hact

end
end Stage
end FeatureScript
