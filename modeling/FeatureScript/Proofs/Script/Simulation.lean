import FeatureScript.Proofs.Script.Plan

/-!
# FeatureScript.Proofs.Script.Simulation

Two runs side by side.

The second run takes the lines of the first one, which may be numbered on from somewhere (`shift`).
`Simulation` says what has to be shown of the executors and the reporters: a relation between the
states of the first run and those of the second that every call and every event preserves.
`Simulation.interpret` then says of whole runs that they end alike, with states in relation.

The interpreters need only have the same sessions (`Interpreter.Agrees`); how many scenarios each of
them has seen does not matter. A heading makes them agree even if they remembered different steps
outside of scenarios (`Simulation.acceptAll_of_heading`).
-/

namespace FeatureScript

variable {σ τ ρ υ : Type}

/-! ## Numbering on -/

def Line.shift (n : Nat) (l : Line) : Line := { l with number := l.number + n }

@[simp] theorem Line.shift_token (n : Nat) (l : Line) : (l.shift n).token = l.token := rfl

@[simp] theorem Line.shift_zero (l : Line) : l.shift 0 = l := rfl

@[simp] theorem Line.map_shift_zero (lines : List Line) : lines.map (.shift 0) = lines :=
  List.map_id _

def Event.shift (n : Nat) : Event → Event
  | .feature line label => .feature (line.shift n) label
  | .scenario line label => .scenario (line.shift n) label
  | .text line => .text (line.shift n)
  | .step line result => .step (line.shift n) result
  | .advice source message => .advice source message

@[simp] theorem Event.shift_zero (e : Event) : e.shift 0 = e := by cases e <;> rfl

@[simp] theorem Event.map_shift_zero (events : List Event) : events.map (.shift 0) = events :=
  (List.map_congr_left fun e _ => e.shift_zero).trans (List.map_id _)

def InterpretError.shift (n : Nat) : InterpretError → InterpretError
  | .danglingConjunction keyword line => .danglingConjunction keyword (line.shift n)
  | .lifecycle source number cause => .lifecycle source (number + n) cause

@[simp] theorem InterpretError.shift_zero (e : InterpretError) : e.shift 0 = e := by
  cases e <;> rfl

theorem InterpretError.mapError_shift_zero (outcome : Except InterpretError Unit) :
    outcome.mapError (.shift 0) = outcome := by
  cases outcome with
  | ok u => rfl
  | error e => exact congrArg Except.error e.shift_zero

/-! ## Interpreters that agree -/

/-- Both interpreters resolve the steps to come alike, and close alike. -/
structure Interpreter.Agrees (i j : Interpreter) : Prop where
  scenario : i.lifecycle.session = j.lifecycle.session
  unscoped : i.unscoped = j.unscoped

theorem Interpreter.Agrees.refl (i : Interpreter) : i.Agrees i := ⟨rfl, rfl⟩

theorem Interpreter.Agrees.resolve {i j : Interpreter} (h : i.Agrees j) (k : Keyword) :
    ∃ j', j.resolve k = ((i.resolve k).1, j') ∧ (i.resolve k).2.Agrees j' := by
  obtain ⟨⟨session, opened, closed⟩, unscoped⟩ := i
  obtain ⟨⟨session', opened', closed'⟩, unscoped'⟩ := j
  obtain ⟨hscenario, hunscoped⟩ := h
  cases hscenario
  cases hunscoped
  unfold Interpreter.resolve Lifecycle.resolve?
  cases session with
  | none => exact ⟨_, rfl, rfl, rfl⟩
  | some session => exact ⟨_, rfl, rfl, rfl⟩

/-! ## Runs side by side -/

/-- `J` relates the states of an executor and a reporter to those of two others, and the calls and
the events of a line keep it up. Lines are numbered `n` higher on the second side. -/
structure Simulation (E : Executor σ) (R : Reporter ρ) (F : Executor τ) (S : Reporter υ) (n : Nat)
    (J : σ → ρ → τ → υ → Prop) : Prop where
  setUp : ∀ {x r y u}, J x r y u →
    ∃ y', F.setUp y = ((E.setUp x).1, y') ∧ J (E.setUp x).2 r y' u
  tearDown : ∀ {x r y u}, J x r y u →
    ∃ y', F.tearDown y = ((E.tearDown x).1, y') ∧ J (E.tearDown x).2 r y' u
  execute : ∀ {x r y u line w text} k, line.token = .step w text → J x r y u →
    J (E.execute x k text).2 (R r (.step line (E.execute x k text).1))
      (F.execute y k text).2 (S u (.step (line.shift n) (F.execute y k text).1))
  other : ∀ {x r y u} e, (∀ line result, e ≠ .step line result) → J x r y u →
    J x (R r e) y (S u (e.shift n))

namespace Stage

/-- Takes lines, and then ends the script at the last line given. -/
def acceptToEnd (E : Executor σ) (R : Reporter ρ) (s : Stage σ ρ) (lines : List Line)
    (source : String) (lastLine : Nat) : Except InterpretError Unit × Stage σ ρ :=
  match s.acceptAll E R lines with
  | (.ok (), t) => t.finish E source lastLine
  | failed => failed

theorem interpret_eq_acceptToEnd (E : Executor σ) (R : Reporter ρ) (s : Stage σ ρ)
    (text source : String) :
    s.interpret E R text source =
      s.acceptToEnd E R (scriptLines text source) source (scriptLines text source).length := rfl

/-- The stages are in relation, and their interpreters agree. -/
structure Beside (J : σ → ρ → τ → υ → Prop) (s : Stage σ ρ) (s' : Stage τ υ) : Prop where
  interpreter : s.interpreter.Agrees s'.interpreter
  states : J s.executor s.reporter s'.executor s'.reporter

/-- The runs end alike, with states in relation; the interpreters of runs that end well agree. -/
structure Alike (n : Nat) (J : σ → ρ → τ → υ → Prop)
    (run : Except InterpretError Unit × Stage σ ρ) (run' : Except InterpretError Unit × Stage τ υ) :
    Prop where
  outcome : run'.1 = run.1.mapError (.shift n)
  states : J run.2.executor run.2.reporter run'.2.executor run'.2.reporter
  interpreter : run.1 = .ok () → run.2.interpreter.Agrees run'.2.interpreter

end Stage

namespace Simulation

variable {E : Executor σ} {R : Reporter ρ} {F : Executor τ} {S : Reporter υ} {n : Nat}
  {J : σ → ρ → τ → υ → Prop}

section

variable {l l' m : Lifecycle} {x x' : σ} {r : ρ} {y : τ} {u : υ}
  {outcome : Except LifecycleError Unit}

theorem leave_lifecycle (h : Simulation E R F S n J) (hl : l.session = l'.session)
    (hJ : J x r y u) (hleave : l.leave E x = (outcome, m, x')) :
    ∃ m' y', l'.leave F y = (outcome, m', y') ∧ J x' r y' u ∧ m.session = m'.session := by
  unfold Lifecycle.leave at hleave ⊢
  rw [← hl]
  cases hsession : l.session with
  | none =>
    rw [hsession] at hleave
    cases hleave
    exact ⟨l', y, rfl, hJ, hl⟩
  | some session =>
    rw [hsession] at hleave
    obtain ⟨y', hdown, hJ'⟩ := h.tearDown hJ
    cases hanswer : E.tearDown x with
    | mk answer x' =>
      rw [hanswer] at hleave hdown hJ'
      simp only [hdown]
      cases answer <;> cases hleave <;> exact ⟨_, y', rfl, hJ', rfl⟩

theorem enter_lifecycle (h : Simulation E R F S n J) (hl : l.session = l'.session)
    (hJ : J x r y u) (henter : l.enter E x = (outcome, m, x')) :
    ∃ m' y', l'.enter F y = (outcome, m', y') ∧ J x' r y' u ∧ m.session = m'.session := by
  unfold Lifecycle.enter at henter ⊢
  cases hleave : l.leave E x with
  | mk left rest =>
    obtain ⟨m₁, x₁⟩ := rest
    obtain ⟨m', y₁, hleave', hJ₁, hm₁⟩ := h.leave_lifecycle hl hJ hleave
    rw [hleave] at henter
    rw [hleave']
    cases left with
    | error e => cases henter; exact ⟨m', y₁, rfl, hJ₁, hm₁⟩
    | ok v =>
      obtain ⟨y', hup, hJ'⟩ := h.setUp hJ₁
      cases hanswer : E.setUp x₁ with
      | mk answer x' =>
        rw [hanswer] at hup hJ'
        simp only [hanswer] at henter
        simp only [hup]
        cases answer with
        | ok v => cases henter; exact ⟨_, y', rfl, hJ', rfl⟩
        | error e => cases henter; exact ⟨m', y', rfl, hJ', hm₁⟩

end

section

variable {s : Stage σ ρ} {s' : Stage τ υ} {line : Line}

theorem leave (h : Simulation E R F S n J) (hs : s.Beside J s') (source : String) (number : Nat) :
    Stage.Alike n J (s.leave E source number) (s'.leave F source (number + n)) := by
  unfold Stage.leave
  cases hleave : s.interpreter.lifecycle.leave E s.executor with
  | mk outcome rest =>
    obtain ⟨m', y', hleave', hJ, hm⟩ :=
      h.leave_lifecycle hs.interpreter.scenario hs.states hleave
    rw [hleave']
    refine ⟨?_, hJ, fun _ => ⟨hm, hs.interpreter.unscoped⟩⟩
    cases outcome <;> rfl

/-- A heading is taken alike even where different steps outside of scenarios are remembered. -/
theorem accept_heading (h : Simulation E R F S n J)
    (hl : s.interpreter.lifecycle.session = s'.interpreter.lifecycle.session)
    (hJ : J s.executor s.reporter s'.executor s'.reporter) (ht : line.token.isHeading = true) :
    Stage.Alike n J (s.accept E R line) (s'.accept F S (line.shift n)) := by
  unfold Stage.accept
  rw [Line.shift_token]
  cases htoken : line.token with
  | feature label =>
    simp only [Stage.leave]
    cases hleave : s.interpreter.lifecycle.leave E s.executor with
    | mk left rest =>
      obtain ⟨m', y', hleave', hJ', hm⟩ := h.leave_lifecycle hl hJ hleave
      rw [hleave']
      cases left with
      | ok v => exact ⟨rfl, h.other (.feature line label) (by simp) hJ', fun _ => ⟨hm, rfl⟩⟩
      | error e => exact ⟨rfl, hJ', fun hok => (by cases hok)⟩
  | scenario label =>
    simp only [Stage.enter]
    cases henter : s.interpreter.lifecycle.enter E s.executor with
    | mk entered rest =>
      obtain ⟨m', y', henter', hJ', hm⟩ := h.enter_lifecycle hl hJ henter
      rw [henter']
      cases entered with
      | ok v => exact ⟨rfl, h.other (.scenario line label) (by simp) hJ', fun _ => ⟨hm, rfl⟩⟩
      | error e => exact ⟨rfl, hJ', fun hok => (by cases hok)⟩
  | step w text => rw [htoken] at ht; cases ht
  | text => rw [htoken] at ht; cases ht

theorem accept (h : Simulation E R F S n J) (hs : s.Beside J s') (line : Line) :
    Stage.Alike n J (s.accept E R line) (s'.accept F S (line.shift n)) := by
  cases hheading : line.token.isHeading with
  | true => exact h.accept_heading hs.interpreter.scenario hs.states hheading
  | false =>
    unfold Stage.accept
    rw [Line.shift_token]
    cases htoken : line.token with
    | feature label => rw [htoken] at hheading; cases hheading
    | scenario label => rw [htoken] at hheading; cases hheading
    | step w text =>
      obtain ⟨i', hresolve', hagrees⟩ := hs.interpreter.resolve w
      cases hresolve : s.interpreter.resolve w with
      | mk resolved i =>
        rw [hresolve] at hresolve' hagrees
        simp only [hresolve, hresolve']
        cases resolved with
        | none => exact ⟨rfl, hs.states, fun hok => (by cases hok)⟩
        | some k => exact ⟨rfl, h.execute k htoken hs.states, fun _ => hagrees⟩
    | text => exact ⟨rfl, h.other (.text line) (by simp) hs.states, fun _ => hs.interpreter⟩

theorem acceptAll_cons {lines : List Line}
    (hline : Stage.Alike n J (s.accept E R line) (s'.accept F S (line.shift n)))
    (hrest : ∀ {t : Stage σ ρ} {t' : Stage τ υ}, t.Beside J t' →
      Stage.Alike n J (t.acceptAll E R lines) (t'.acceptAll F S (lines.map (.shift n)))) :
    Stage.Alike n J (s.acceptAll E R (line :: lines))
      (s'.acceptAll F S ((line :: lines).map (.shift n))) := by
  obtain ⟨houtcome, hJ, hagrees⟩ := hline
  simp only [List.map_cons, Stage.acceptAll]
  cases htaken : s.accept E R line with
  | mk taken t =>
    cases htaken' : s'.accept F S (line.shift n) with
    | mk taken' t' =>
      rw [htaken] at houtcome hJ hagrees
      rw [htaken'] at houtcome hJ hagrees
      cases taken with
      | ok v => cases houtcome; exact hrest ⟨hagrees rfl, hJ⟩
      | error e => cases houtcome; exact ⟨rfl, hJ, fun hok => (by cases hok)⟩

theorem acceptAll (h : Simulation E R F S n J) (hs : s.Beside J s') (lines : List Line) :
    Stage.Alike n J (s.acceptAll E R lines) (s'.acceptAll F S (lines.map (.shift n))) := by
  induction lines generalizing s s' with
  | nil => exact ⟨rfl, hs.states, fun _ => hs.interpreter⟩
  | cons line rest ih => exact acceptAll_cons (h.accept hs line) ih

/-- Lines that begin with a heading are taken alike whatever steps outside of scenarios were
remembered before. -/
theorem acceptAll_of_heading (h : Simulation E R F S n J)
    (hl : s.interpreter.lifecycle.session = s'.interpreter.lifecycle.session)
    (hJ : J s.executor s.reporter s'.executor s'.reporter) (ht : line.token.isHeading = true)
    (rest : List Line) :
    Stage.Alike n J (s.acceptAll E R (line :: rest))
      (s'.acceptAll F S ((line :: rest).map (.shift n))) :=
  acceptAll_cons (h.accept_heading hl hJ ht) fun hs => h.acceptAll hs rest

/-- Scripts whose lines are taken alike end alike. -/
theorem acceptToEnd (h : Simulation E R F S n J) {lines : List Line}
    (hlines : Stage.Alike n J (s.acceptAll E R lines) (s'.acceptAll F S (lines.map (.shift n))))
    (source : String) (lastLine : Nat) :
    Stage.Alike n J (s.acceptToEnd E R lines source lastLine)
      (s'.acceptToEnd F S (lines.map (.shift n)) source (lastLine + n)) := by
  obtain ⟨houtcome, hJ, hagrees⟩ := hlines
  unfold Stage.acceptToEnd
  cases htaken : s.acceptAll E R lines with
  | mk taken t =>
    cases htaken' : s'.acceptAll F S (lines.map (.shift n)) with
    | mk taken' t' =>
      rw [htaken] at houtcome hJ hagrees
      rw [htaken'] at houtcome hJ hagrees
      cases taken with
      | ok v => cases houtcome; exact h.leave ⟨hagrees rfl, hJ⟩ source lastLine
      | error e => cases houtcome; exact ⟨rfl, hJ, fun hok => (by cases hok)⟩

/-- Whole scripts are run alike. -/
theorem interpret (h : Simulation E R F S 0 J) (hs : s.Beside J s') (text source : String) :
    Stage.Alike 0 J (s.interpret E R text source) (s'.interpret F S text source) := by
  have hend := h.acceptToEnd (h.acceptAll hs (scriptLines text source)) source
    (scriptLines text source).length
  rw [Line.map_shift_zero] at hend
  exact hend

end

end Simulation
end FeatureScript
