import FeatureScript.Advice.Log
import FeatureScript.Proofs.Script.Transcript
import Mathlib.Data.List.Forall2

/-!
# FeatureScript.Proofs.Report.Log

What reporters hold after the events of a run.

A run that ends well tells its lines one by one (`tells_of_ok`). A tally counts the events
(`Tally.reportAll_eq`), and a log of advice keeps its notes in the order of the events
(`AdviceLog.reportAll_eq`).
-/

namespace FeatureScript

variable {σ ρ : Type}

/-! ## Kinds of events -/

namespace Event

def isScenario : Event → Bool
  | .scenario _ _ => true
  | _ => false

def result? : Event → Option StepResult
  | .step _ result => some result
  | _ => none

def isPassed (e : Event) : Bool :=
  match e.result? with
  | some (.pass _) => true
  | _ => false

def isFailed (e : Event) : Bool :=
  match e.result? with
  | some (.fail _ _) => true
  | _ => false

def isMissing (e : Event) : Bool :=
  match e.result? with
  | some (.missing _) => true
  | _ => false

def isSilent (e : Event) : Bool :=
  match e.result? with
  | some (.noAssertions _) => true
  | _ => false

end Event

/-- `e` is the event of the line, whatever the result of a step is. -/
def Tells (line : Line) (e : Event) : Prop :=
  match line.token with
  | .feature label => e = .feature line label
  | .scenario label => e = .scenario line label
  | .step _ _ => ∃ result, e = .step line result
  | .text => e = .text line

theorem Recounts.tells {calls : List Call} {line : Line} {e : Event} (h : Recounts calls line e) :
    Tells line e := by
  unfold Recounts at h
  unfold Tells
  cases htoken : line.token with
  | step w text =>
    rw [htoken] at h
    obtain ⟨k, result, -, he⟩ := h
    exact ⟨result, he⟩
  | _ => simpa only [htoken] using h

/-- The event of a line, kind by kind. -/
theorem Tells.cases {line : Line} {e : Event} (h : Tells line e) :
    (∃ label, line.token = .feature label ∧ e = .feature line label) ∨
      (∃ label, line.token = .scenario label ∧ e = .scenario line label) ∨
      (∃ w text result, line.token = .step w text ∧ e = .step line result) ∨
      (line.token = .text ∧ e = .text line) := by
  unfold Tells at h
  cases htoken : line.token with
  | feature label => rw [htoken] at h; exact .inl ⟨label, rfl, h⟩
  | scenario label => rw [htoken] at h; exact .inr (.inl ⟨label, rfl, h⟩)
  | step w text =>
    rw [htoken] at h
    obtain ⟨result, he⟩ := h
    exact .inr (.inr (.inl ⟨w, text, result, rfl, he⟩))
  | text => rw [htoken] at h; exact .inr (.inr (.inr ⟨rfl, h⟩))

section

variable {line : Line} {e : Event}

theorem Tells.isScenario (h : Tells line e) : e.isScenario = line.token.isScenario := by
  rcases h.cases with ⟨_, ht, rfl⟩ | ⟨_, ht, rfl⟩ | ⟨_, _, _, ht, rfl⟩ | ⟨ht, rfl⟩ <;> rw [ht] <;> rfl

theorem Tells.line? (h : Tells line e) : e.line? = some line := by
  rcases h.cases with ⟨_, _, rfl⟩ | ⟨_, _, rfl⟩ | ⟨_, _, _, _, rfl⟩ | ⟨_, rfl⟩ <;> rfl

end

/-- Events that narrate lines tell the first of them one by one. -/
theorem Stage.Narrates.tells {E : Executor σ} {s : Stage (Logged σ) Recording} {lines : List Line}
    {n : Nat} {events : List Event} (h : s.Narrates E lines n events) :
    List.Forall₂ Tells (lines.take n) events := by
  obtain ⟨hlength, hevents⟩ := h
  have hn : n ≤ lines.length := by
    cases n with
    | zero => exact Nat.zero_le _
    | succ n =>
      obtain ⟨line, e, hline, -, -⟩ := hevents n (Nat.lt_succ_self n)
      exact (List.getElem?_eq_some_iff.mp hline).1
  refine List.forall₂_iff_get.mpr ⟨by rw [List.length_take_of_le hn, hlength], fun i hi hi' => ?_⟩
  obtain ⟨line, e, hline, he, hrec⟩ := hevents i (hlength ▸ hi')
  rw [List.get_eq_getElem, List.get_eq_getElem, List.getElem_take,
    (List.getElem?_eq_some_iff.mp hline).2, (List.getElem?_eq_some_iff.mp he).2]
  exact hrec.tells

/-- A run that ends well tells its lines one by one. -/
theorem tells_of_ok {E : Executor σ} {x : σ} {text source : String}
    (h : (interpret E Recording.report x {} text source).1 = .ok ()) :
    List.Forall₂ Tells (scriptLines text source)
      (interpret E Recording.report x {} text source).2.reporter.events := by
  rw [interpret_logged E Recording.report { state := x }] at h ⊢
  let start : Stage (Logged σ) Recording := { executor := { state := x }, reporter := {} }
  cases htaken : start.acceptAll E.logged Recording.report (scriptLines text source) with
  | mk taken s' =>
    cases taken with
    | ok u =>
      have htells := (Stage.narrates_of_ok (s := start) rfl rfl htaken).2.tells
      rwa [List.take_length] at htells
    | error e =>
      have hrun : interpret E.logged Recording.report { state := x } {} text source =
          (.error e, s') := Stage.interpret_of_error htaken
      rw [hrun] at h
      cases h

/-- Each line is told, if the run does not stop at it or before. -/
theorem told_line {E : Executor σ} {x : σ} {text source : String} {i : Nat} {line : Line}
    (hline : (scriptLines text source)[i]? = some line)
    (h : ∀ err, (interpret E Recording.report x {} text source).1 = .error err →
      line.number < err.number) :
    ∃ e ∈ (interpret E Recording.report x {} text source).2.reporter.events, Tells line e := by
  rw [interpret_logged E Recording.report { state := x }] at h ⊢
  let start : Stage (Logged σ) Recording := { executor := { state := x }, reporter := {} }
  have hnarrated : ∃ n, i < n ∧ start.Narrates E (scriptLines text source) n
      (interpret E.logged Recording.report { state := x } {} text source).2.reporter.events := by
    cases htaken : start.acceptAll E.logged Recording.report (scriptLines text source) with
    | mk taken s' =>
      cases taken with
      | ok u =>
        exact ⟨_, (List.getElem?_eq_some_iff.mp hline).1,
          (Stage.narrates_of_ok (s := start) rfl rfl htaken).2⟩
      | error err =>
        have hrun : interpret E.logged Recording.report { state := x } {} text source =
            (.error err, s') := Stage.interpret_of_error htaken
        have herror := congrArg Prod.fst htaken
        obtain ⟨-, -, -, -, hnarrates⟩ := Stage.narrates_of_stop (s := start) rfl rfl herror
        have hnumber := (scriptLines_getElem hline).1
        have hbefore := h err (congrArg Prod.fst hrun)
        rw [htaken] at hnarrates
        rw [hrun]
        exact ⟨err.number - 1, by omega, hnarrates⟩
  obtain ⟨n, hi, -, hevents⟩ := hnarrated
  obtain ⟨line', e, hline', he, hrecounts⟩ := hevents i hi
  rw [hline] at hline'
  cases hline'
  exact ⟨e, List.mem_of_getElem? he, hrecounts.tells⟩

/-- What taking lines tells is about these lines, and so is an error. -/
theorem Stage.acceptAll_tells {E : Executor σ} {R : Reporter ρ} {s s' : Stage (Logged σ) ρ}
    {lines : List Line} {outcome : Except InterpretError Unit}
    (h : s.acceptAll E.logged R lines = (outcome, s')) :
    ∃ events, s'.reporter = R.reportAll s.reporter events ∧
      (∀ e ∈ events, ∃ line ∈ lines, Tells line e) ∧
      ∀ err, outcome = .error err → ∃ line ∈ lines, err.At line := by
  induction lines generalizing s with
  | nil =>
    cases h
    exact ⟨[], rfl, by simp, by simp⟩
  | cons line rest ih =>
    unfold acceptAll at h
    cases hline : s.accept E.logged R line with
    | mk taken s₁ =>
      obtain ⟨calls, -, -, hmoves⟩ := accept_spec hline
      rw [hline] at h
      cases taken with
      | error err =>
        cases h
        obtain ⟨hat, hreporter⟩ := hmoves
        refine ⟨[], hreporter, by simp, ?_⟩
        rintro err' ⟨⟩
        exact ⟨line, List.mem_cons_self, hat⟩
      | ok u =>
        obtain ⟨-, e, hrecounts, hreporter⟩ := hmoves
        obtain ⟨events, htold, hevents, herror⟩ := ih h
        refine ⟨e :: events, ?_, ?_, ?_⟩
        · rw [htold, hreporter]
          rfl
        · rw [List.forall_mem_cons]
          exact ⟨⟨line, List.mem_cons_self, hrecounts.tells⟩, fun e' he' =>
            (hevents e' he').imp fun _ h => h.imp_left (List.mem_cons_of_mem line)⟩
        · intro err herr
          exact (herror err herr).imp fun _ h => h.imp_left (List.mem_cons_of_mem line)

/-! ## Recordings -/

theorem Recording.reportAll_eq (recording : Recording) (events : List Event) :
    Recording.report.reportAll recording events = ⟨recording.events ++ events⟩ := by
  induction events generalizing recording with
  | nil => exact congrArg Recording.mk (List.append_nil _).symm
  | cons e rest ih => exact (ih _).trans (by simp [report])

/-- What a run tells is about the lines of its script. -/
theorem interpret_tells {E : Executor σ} {x : σ} {text source : String} :
    ∀ e ∈ (interpret E Recording.report x {} text source).2.reporter.events,
      ∃ line ∈ scriptLines text source, Tells line e := by
  intro e he
  rw [interpret_logged E Recording.report { state := x }] at he
  let start : Stage (Logged σ) Recording := { executor := { state := x }, reporter := {} }
  cases htaken : start.acceptAll E.logged Recording.report (scriptLines text source) with
  | mk taken s' =>
    obtain ⟨events, hreporter, hevents, -⟩ := Stage.acceptAll_tells htaken
    have hrun : (interpret E.logged Recording.report { state := x } {} text source).2.reporter =
        s'.reporter := by
      cases taken with
      | error err => exact congrArg (·.2.reporter) (Stage.interpret_of_error htaken)
      | ok u => exact congrArg (·.2.reporter) (Stage.interpret_of_ok htaken)
    rw [Recording.reportAll_eq] at hreporter
    exact hevents e (by simpa [Stage.map, hrun, hreporter, start] using he)

/-! ## Tallies -/

theorem Tally.reportAll_eq (t : Tally) (events : List Event) :
    Tally.report.reportAll t events =
      { scenarios := t.scenarios + events.countP Event.isScenario
        passed := t.passed + events.countP Event.isPassed
        failed := t.failed + events.countP Event.isFailed
        missing := t.missing + events.countP Event.isMissing
        noAssertions := t.noAssertions + events.countP Event.isSilent } := by
  induction events generalizing t with
  | nil => rfl
  | cons e rest ih =>
    refine (ih _).trans ?_
    simp only [List.countP_cons]
    cases e with
    | step line result =>
      cases result <;> simp [report, record, Event.isScenario, Event.isPassed, Event.isFailed,
        Event.isMissing, Event.isSilent, Event.result?, Nat.add_comm, Nat.add_left_comm]
    | _ => simp [report, Event.isScenario, Event.isPassed, Event.isFailed, Event.isMissing,
        Event.isSilent, Event.result?, Nat.add_comm, Nat.add_left_comm]

/-! ## Notes -/

namespace AdviceLog

/-- The note on a missing step. -/
def missingNote? : Event → Option MissingNote
  | .step line (.missing keyword) =>
    match line.token with
    | .step _ text => some ⟨line.number, keyword, text⟩
    | _ => none
  | _ => none

/-- The number of a line that should assert something and does not. -/
def unasserted? : Event → Option Nat
  | .step line (.noAssertions _) => if shouldAssert line then some line.number else none
  | _ => none

theorem note_eq (log : AdviceLog ρ) (e : Event) :
    log.note e = { log with
      missing := log.missing ++ (missingNote? e).toList
      unasserted := log.unasserted ++ (unasserted? e).toList } := by
  cases e with
  | step line result =>
    cases result with
    | missing keyword => cases ht : line.token <;> simp [note, missingNote?, unasserted?, ht]
    | noAssertions output => cases ha : shouldAssert line <;>
        simp [note, missingNote?, unasserted?, ha]
    | _ => simp [note, missingNote?, unasserted?]
  | _ => simp [note, missingNote?, unasserted?]

theorem reportAll_eq (R : Reporter ρ) (log : AdviceLog ρ) (events : List Event) :
    (report R).reportAll log events =
      { inner := R.reportAll log.inner events
        tally := Tally.report.reportAll log.tally events
        missing := log.missing ++ events.filterMap missingNote?
        unasserted := log.unasserted ++ events.filterMap unasserted? } := by
  induction events generalizing log with
  | nil => simp [Reporter.reportAll]
  | cons e rest ih =>
    refine (ih _).trans ?_
    simp only [report, note_eq, Reporter.reportAll, List.foldl_cons, List.filterMap_cons]
    cases missingNote? e <;> cases unasserted? e <;> simp

/-! ## The reporter behind a log -/

theorem report_projects_inner (R : Reporter ρ) : (report R).Projects R inner := fun _ _ => rfl

theorem report_projects_tally (R : Reporter ρ) : (report R).Projects Tally.report tally :=
  fun _ _ => rfl

/-- A log of advice is transparent. Whatever it is fed, the reporter behind it is left as if it had
been fed the same itself, and the tally is that of a tally fed the same. So a script in front of a log
is run as it is in front of the reporter itself: the outcome, the calls on the executor, the states of
executor and interpreter are the same, and the same events reach the reporter. -/
theorem is_transparent (R : Reporter ρ) (r : ρ) :
    (∀ events, let log := (report R).reportAll { inner := r } events
      log.inner = R.reportAll r events ∧ log.tally = Tally.report.reportAll {} events) ∧
    ∀ {σ : Type} (E : Executor σ) (x : σ) (text source : String),
      let logged := interpret E.logged (report R) { state := x } { inner := r } text source
      let direct := interpret E.logged R { state := x } r text source
      let events := (interpret E.logged Recording.report { state := x } {} text
        source).2.reporter.events
      interpret E (report R) x { inner := r } text source =
        (logged.1, logged.2.map Logged.state id) ∧
      interpret E R x r text source = (direct.1, direct.2.map Logged.state id) ∧
      logged.1 = direct.1 ∧ logged.2.executor = direct.2.executor ∧
      logged.2.interpreter = direct.2.interpreter ∧
      logged.2.reporter.inner = direct.2.reporter ∧ direct.2.reporter = R.reportAll r events ∧
      logged.2.reporter.tally = Tally.report.reportAll {} events := by
  refine ⟨fun events => ?_, fun {σ} E x text source => ?_⟩
  · rw [reportAll_eq]
    exact ⟨rfl, rfl⟩
  intro logged direct events
  have hinner : direct = (logged.1, logged.2.map id inner) :=
    interpret_map (.refl E.logged) (report_projects_inner R) { state := x } { inner := r } text source
  have htally := interpret_map (.refl E.logged) (report_projects_tally R) { state := x }
    { inner := r } text source
  have hdirect := interpret_reportAll E.logged R { state := x } r text source
  refine ⟨interpret_logged E _ { state := x } _ text source,
    interpret_logged E R { state := x } r text source, ?_, ?_, ?_, ?_, ?_, ?_⟩
  · rw [hinner]
  · rw [hinner]; rfl
  · rw [hinner]; rfl
  · rw [hinner]; rfl
  · exact congrArg (·.2.reporter) hdirect
  · have h := congrArg (·.2.reporter)
      (htally.symm.trans (interpret_reportAll E.logged Tally.report { state := x } {} text source))
    exact h

end AdviceLog
end FeatureScript
