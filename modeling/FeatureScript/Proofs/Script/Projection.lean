import FeatureScript.Script.Interpreter

/-!
# FeatureScript.Proofs.Script.Projection

Running a script commutes with looking at less of the states.

An executor `E` projects onto `F` along `f` when it answers every call as `F` answers on what `f`
shows of its state; a reporter projects along `g` likewise. Then each function of a run, up to
`interpret`, gives the same outcome on both sides, and the states it leaves correspond. Every
reporter is a projection of one that keeps the events, so a run does the same whatever reporter it
has (`interpret_reportAll`).
-/

namespace FeatureScript

variable {σ τ ρ υ : Type}

/-- On what `f` shows of the state of `E`, `F` answers as `E` does. -/
structure Executor.Projects (E : Executor σ) (F : Executor τ) (f : σ → τ) : Prop where
  setUp : ∀ x, F.setUp (f x) = ((E.setUp x).1, f (E.setUp x).2)
  tearDown : ∀ x, F.tearDown (f x) = ((E.tearDown x).1, f (E.tearDown x).2)
  execute : ∀ x k text, F.execute (f x) k text =
    ((E.execute x k text).1, f (E.execute x k text).2)

/-- On what `g` shows of the state of `R`, `S` takes events as `R` does. -/
def Reporter.Projects (R : Reporter ρ) (S : Reporter υ) (g : ρ → υ) : Prop :=
  ∀ r e, S (g r) e = g (R r e)

theorem Reporter.Projects.refl (R : Reporter ρ) : R.Projects R id := fun _ _ => rfl

namespace Stage

/-- What is shown of a stage. -/
def map (f : σ → τ) (g : ρ → υ) (s : Stage σ ρ) : Stage τ υ :=
  { interpreter := s.interpreter, executor := f s.executor, reporter := g s.reporter }

end Stage

section

variable {E : Executor σ} {F : Executor τ} {f : σ → τ}

theorem Lifecycle.leave_map (hE : E.Projects F f) (l : Lifecycle) (x : σ) :
    l.leave F (f x) = ((l.leave E x).1, (l.leave E x).2.1, f (l.leave E x).2.2) := by
  unfold Lifecycle.leave
  cases l.session with
  | none => rfl
  | some session =>
    simp only [hE.tearDown]
    obtain ⟨outcome, y⟩ := E.tearDown x
    cases outcome <;> rfl

theorem Lifecycle.enter_map (hE : E.Projects F f) (l : Lifecycle) (x : σ) :
    l.enter F (f x) = ((l.enter E x).1, (l.enter E x).2.1, f (l.enter E x).2.2) := by
  unfold Lifecycle.enter
  rw [leave_map hE]
  obtain ⟨outcome, l', y⟩ := l.leave E x
  cases outcome with
  | error e => rfl
  | ok u =>
    simp only [hE.setUp]
    obtain ⟨outcome, z⟩ := E.setUp y
    cases outcome <;> rfl

end

namespace Stage

variable {E : Executor σ} {F : Executor τ} {f : σ → τ} {R : Reporter ρ} {S : Reporter υ} {g : ρ → υ}

theorem leave_map (hE : E.Projects F f) (s : Stage σ ρ) (source : String) (number : Nat) :
    (s.map f g).leave F source number =
      ((s.leave E source number).1, (s.leave E source number).2.map f g) := by
  simp only [leave, map, Lifecycle.leave_map hE]

theorem enter_map (hE : E.Projects F f) (s : Stage σ ρ) (source : String) (number : Nat) :
    (s.map f g).enter F source number =
      ((s.enter E source number).1, (s.enter E source number).2.map f g) := by
  simp only [enter, map, Lifecycle.enter_map hE]

theorem heading_map (hR : R.Projects S g) (s : Stage σ ρ) (e : Event) :
    (s.map f g).heading S e = (s.heading R e).map f g := by
  simp only [heading, map, hR s.reporter e]

theorem accept_map (hE : E.Projects F f) (hR : R.Projects S g) (s : Stage σ ρ) (line : Line) :
    (s.map f g).accept F S line = ((s.accept E R line).1, (s.accept E R line).2.map f g) := by
  unfold accept
  cases line.token with
  | feature label =>
    simp only [leave_map hE]
    obtain ⟨outcome, s'⟩ := s.leave E line.source line.number
    cases outcome with
    | error e => rfl
    | ok u => simp only [heading_map hR]
  | scenario label =>
    simp only [enter_map hE]
    obtain ⟨outcome, s'⟩ := s.enter E line.source line.number
    cases outcome with
    | error e => rfl
    | ok u => simp only [heading_map hR]
  | step k text =>
    simp only [map]
    obtain ⟨resolved, i⟩ := s.interpreter.resolve k
    cases resolved with
    | none => rfl
    | some resolved => simp only [hE.execute, hR s.reporter]
  | text => simp only [map, hR s.reporter]

theorem acceptAll_map (hE : E.Projects F f) (hR : R.Projects S g) (s : Stage σ ρ)
    (lines : List Line) :
    (s.map f g).acceptAll F S lines =
      ((s.acceptAll E R lines).1, (s.acceptAll E R lines).2.map f g) := by
  induction lines generalizing s with
  | nil => rfl
  | cons line rest ih =>
    simp only [acceptAll, accept_map hE hR]
    obtain ⟨outcome, s'⟩ := s.accept E R line
    cases outcome with
    | error e => rfl
    | ok u => exact ih s'

theorem interpret_map (hE : E.Projects F f) (hR : R.Projects S g) (s : Stage σ ρ)
    (text source : String) :
    (s.map f g).interpret F S text source =
      ((s.interpret E R text source).1, (s.interpret E R text source).2.map f g) := by
  simp only [Stage.interpret, acceptAll_map hE hR]
  obtain ⟨outcome, s'⟩ := s.acceptAll E R (scriptLines text source)
  cases outcome with
  | error e => rfl
  | ok u => exact leave_map hE s' source _

end Stage

/-- A run shows the same outcome and the corresponding states whichever side it is made on. -/
theorem interpret_map {E : Executor σ} {F : Executor τ} {f : σ → τ} {R : Reporter ρ}
    {S : Reporter υ} {g : ρ → υ} (hE : E.Projects F f) (hR : R.Projects S g) (x : σ) (r : ρ)
    (text source : String) :
    interpret F S (f x) (g r) text source =
      ((interpret E R x r text source).1, (interpret E R x r text source).2.map f g) :=
  Stage.interpret_map hE hR { executor := x, reporter := r } text source

/-! ## Reporters -/

theorem Executor.Projects.refl (E : Executor σ) : E.Projects E id :=
  ⟨fun _ => rfl, fun _ => rfl, fun _ _ _ => rfl⟩

/-- A reporter takes what a recording keeps. -/
theorem Recording.report_projects (R : Reporter ρ) (r : ρ) :
    Recording.report.Projects R fun recording => R.reportAll r recording.events := by
  intro recording e
  simp only [report, Reporter.reportAll, List.foldl_append]
  rfl

/-- What a run does and tells does not depend on the reporter. -/
theorem interpret_reportAll (E : Executor σ) (R : Reporter ρ) (x : σ) (r : ρ)
    (text source : String) :
    let run := interpret E Recording.report x {} text source
    interpret E R x r text source = (run.1, run.2.map id fun recording =>
      R.reportAll r recording.events) :=
  interpret_map (.refl E) (Recording.report_projects R r) x {} text source

end FeatureScript
