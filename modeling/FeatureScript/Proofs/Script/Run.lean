import FeatureScript.Proofs.Script.Calls

/-!
# FeatureScript.Proofs.Script.Run

What a run can do.

`Stage.accept_spec` says once what taking a line can do: its calls answer the acts of the line, and
the line is reported exactly if all of them are answered well. `Stage.acceptAll_spec` and
`Stage.interpret_spec` carry this over a run.
-/

namespace FeatureScript

variable {σ ρ : Type}

namespace Lifecycle

variable {E : Executor σ} {l l' : Lifecycle} {x x' : Logged σ}
  {outcome : Except LifecycleError Unit}

theorem leave_spec (h : l.leave E.logged x = (outcome, l', x')) (source : String) (number : Nat) :
    ∃ calls, x.Adds E calls x' ∧ l' = l.left ∧
      Answers l.closing calls (outcome.mapError (.lifecycle source number)) := by
  unfold leave at h
  unfold left closing isOpen
  cases hl : l.session with
  | none =>
    rw [hl] at h; cases h
    exact ⟨[], .refl x, rfl, .done⟩
  | some session =>
    cases hdown : E.tearDown x.state with
    | mk answer y =>
      simp only [hl, Executor.logged, hdown] at h
      cases answer with
      | ok u =>
        cases h
        have hans : Answers [.tearDown] [.tearDown (.ok ())] (.ok ()) :=
          .answered (.tearDown (.ok ())) rfl
        exact ⟨[.tearDown (.ok ())], .tearDown hdown, rfl, hans⟩
      | error e =>
        cases h
        have hans : Answers [.tearDown] [.tearDown (.error e)]
            (.error (.lifecycle source number (.tearDown e))) := .refused (.tearDown (.error e)) rfl
        exact ⟨[.tearDown (.error e)], .tearDown hdown, rfl, hans⟩

theorem enter_spec (h : l.enter E.logged x = (outcome, l', x')) (source : String) (number : Nat) :
    ∃ calls, x.Adds E calls x' ∧ (outcome = .ok () → l' = l.entered) ∧
      Answers (l.closing ++ [.setUp]) calls (outcome.mapError (.lifecycle source number)) := by
  unfold enter at h
  cases hleave : l.leave E.logged x with
  | mk left rest =>
    obtain ⟨l₁, x₁⟩ := rest
    obtain ⟨calls, hcalls, rfl, hans⟩ := leave_spec hleave source number
    rw [hleave] at h
    cases left with
    | error e => cases h; exact ⟨calls, hcalls, by simp, hans.append_of_error [.setUp]⟩
    | ok u =>
      cases hup : E.setUp x₁.state with
      | mk answer y =>
        simp only [Executor.logged, hup] at h
        cases answer with
        | ok u =>
          cases h
          have hset : Answers [.setUp] [.setUp (.ok ())] (.ok ()) := .answered (.setUp (.ok ())) rfl
          exact ⟨calls ++ [.setUp (.ok ())], hcalls.trans (.setUp hup), fun _ => rfl,
            hans.append hset⟩
        | error e =>
          cases h
          have hset : Answers [.setUp] [.setUp (.error e)]
              (.error (.lifecycle source number (.setUp e))) := .refused (.setUp (.error e)) rfl
          exact ⟨calls ++ [.setUp (.error e)], hcalls.trans (.setUp hup), by simp,
            hans.append hset⟩

end Lifecycle

/-- The error is put down to the line. -/
def InterpretError.At (line : Line) : InterpretError → Prop
  | .danglingConjunction _ l => l = line
  | .lifecycle source number _ => source = line.source ∧ number = line.number

/-- `e` is the event of a line on whose account the calls were made. -/
def Recounts (calls : List Call) (line : Line) (e : Event) : Prop :=
  match line.token with
  | .feature label => e = .feature line label
  | .scenario label => e = .scenario line label
  | .step _ text => ∃ k result, calls = [.execute k text result] ∧ e = .step line result
  | .text => e = .text line

namespace Stage

/-- What a line does besides its calls: the interpreter moves on and the line is reported, or the
error is put down to the line and nothing is reported. -/
def Moves (R : Reporter ρ) (s : Stage (Logged σ) ρ) (line : Line) (calls : List Call)
    (s' : Stage (Logged σ) ρ) : Except InterpretError Unit → Prop
  | .ok () => s'.interpreter = s.interpreter.next line.token ∧
      ∃ e, Recounts calls line e ∧ s'.reporter = R s.reporter e
  | .error err => err.At line ∧ s'.reporter = s.reporter

variable {E : Executor σ} {R : Reporter ρ}

theorem accept_spec {s s' : Stage (Logged σ) ρ} {line : Line} {outcome : Except InterpretError Unit}
    (h : s.accept E.logged R line = (outcome, s')) :
    ∃ calls, s.executor.Adds E calls s'.executor ∧
      Answers (s.interpreter.acts line.token) calls outcome ∧ s.Moves R line calls s' outcome := by
  unfold accept at h
  unfold Moves Recounts
  cases ht : line.token with
  | feature label =>
    simp only [ht, leave] at h
    cases hleave : s.interpreter.lifecycle.leave E.logged s.executor with
    | mk left rest =>
      obtain ⟨calls, hcalls, hl, hans⟩ := Lifecycle.leave_spec hleave line.source line.number
      rw [hleave] at h
      cases left with
      | ok u =>
        cases h
        exact ⟨calls, hcalls, hans, by rw [Interpreter.next, ← hl]; rfl, _, rfl, rfl⟩
      | error e => cases h; exact ⟨calls, hcalls, hans, ⟨rfl, rfl⟩, rfl⟩
  | scenario label =>
    simp only [ht, enter] at h
    cases henter : s.interpreter.lifecycle.enter E.logged s.executor with
    | mk entered rest =>
      obtain ⟨calls, hcalls, hl, hans⟩ := Lifecycle.enter_spec henter line.source line.number
      rw [henter] at h
      cases entered with
      | ok u =>
        cases h
        exact ⟨calls, hcalls, hans, by rw [Interpreter.next, ← hl rfl]; rfl, _, rfl, rfl⟩
      | error e => cases h; exact ⟨calls, hcalls, hans, ⟨rfl, rfl⟩, rfl⟩
  | step k text =>
    simp only [ht] at h
    simp only [Interpreter.acts, Interpreter.next, ← Interpreter.resolve_fst]
    cases hresolve : s.interpreter.resolve k with
    | mk resolved i =>
      rw [hresolve] at h
      cases resolved with
      | none => cases h; exact ⟨[], .refl _, .dangling ht, rfl, rfl⟩
      | some resolved =>
        cases h
        let result := (E.execute s.executor.state resolved text).1
        exact ⟨[.execute resolved text result], .execute resolved text,
          .answered (.execute resolved text result) rfl, rfl, _, ⟨resolved, _, rfl, rfl⟩, rfl⟩
  | text =>
    simp only [ht] at h
    cases h
    exact ⟨[], .refl _, .done, rfl, _, rfl, rfl⟩

theorem acceptAll_spec {s s' : Stage (Logged σ) ρ} {lines : List Line}
    {outcome : Except InterpretError Unit} (h : s.acceptAll E.logged R lines = (outcome, s')) :
    ∃ calls, s.executor.Adds E calls s'.executor ∧
      Answers (s.interpreter.allActs (lines.map Line.token)) calls outcome ∧
      (outcome = .ok () → s'.interpreter = s.interpreter.after (lines.map Line.token)) := by
  induction lines generalizing s with
  | nil => cases h; exact ⟨[], .refl _, .done, fun _ => rfl⟩
  | cons line rest ih =>
    unfold acceptAll at h
    cases hline : s.accept E.logged R line with
    | mk taken s₁ =>
      obtain ⟨calls, hcalls, hans, hnext⟩ := accept_spec hline
      rw [hline] at h
      cases taken with
      | error e => cases h; exact ⟨calls, hcalls, hans.append_of_error _, by simp⟩
      | ok u =>
        obtain ⟨calls', hcalls', hans', hafter⟩ := ih h
        rw [hnext.1] at hans' hafter
        exact ⟨calls ++ calls', hcalls.trans hcalls', hans.append hans', hafter⟩

theorem interpret_spec {s s' : Stage (Logged σ) ρ} {text source : String}
    {outcome : Except InterpretError Unit}
    (h : s.interpret E.logged R text source = (outcome, s')) :
    ∃ calls, s.executor.Adds E calls s'.executor ∧
      Answers (s.interpreter.plan ((scriptLines text source).map Line.token)) calls outcome ∧
      (outcome = .ok () → s'.interpreter.lifecycle =
        (s.interpreter.after ((scriptLines text source).map Line.token)).lifecycle.left) := by
  simp only [interpret] at h
  cases hlines : s.acceptAll E.logged R (scriptLines text source) with
  | mk taken s₁ =>
    obtain ⟨calls, hcalls, hans, hafter⟩ := acceptAll_spec hlines
    rw [hlines] at h
    cases taken with
    | error e => cases h; exact ⟨calls, hcalls, hans.append_of_error _, by simp⟩
    | ok u =>
      simp only [finish, leave] at h
      cases hleave : s₁.interpreter.lifecycle.leave E.logged s₁.executor with
      | mk left rest =>
        obtain ⟨calls', hcalls', hl, hans'⟩ :=
          Lifecycle.leave_spec hleave source (scriptLines text source).length
        rw [hleave] at h
        cases h
        rw [hafter rfl] at hl hans'
        exact ⟨calls ++ calls', hcalls.trans hcalls', hans.append hans',
          fun _ => hl⟩

end Stage
end FeatureScript
