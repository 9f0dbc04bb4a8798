import FeatureScript.Proofs.Script.Conjunction
import FeatureScript.Proofs.Script.Join

/-!
# FeatureScript.Proofs.Script.Reuse

An interpreter that is used for another script.

The end of a script closes the open scenario, and what was remembered in it is gone. What is
remembered outside of scenarios stays until the next heading or primary step, so a script that ends
outside of scenarios may leave a keyword behind (`LeavesBehind`). `reuse_keeps_unscoped`: a script
that follows is run as with a fresh interpreter, unless a keyword is left behind and a conjunction
is the first thing it says; that one is executed under the keyword left behind, where a fresh
interpreter stops.
-/

namespace FeatureScript

variable {σ ρ : Type}

/-- The last heading above line `i` opens a scenario. -/
def InScenario (tokens : List Token) (i : Nat) : Prop :=
  ∃ j label, j < i ∧ tokens[j]? = some (.scenario label) ∧
    ∀ m, j < m → m < i → ∀ t, tokens[m]? = some t → t.isHeading = false

/-- The script ends outside of scenarios, and `k` is the last primary keyword below its last
heading, if there is one. -/
def LeavesBehind (tokens : List Token) (k : Keyword) : Prop :=
  Remembered tokens tokens.length k ∧ ¬ InScenario tokens tokens.length

/-- The first line that is no plain text. -/
def opening? (lines : List Line) : Option Line := lines.find? fun line => line.token != .text

/-! ## What a script leaves behind -/

section

variable {tokens : List Token} {i : Nat} {t : Token} {k : Keyword} {label : String}

theorem inScenario_of_scenario (ht : tokens[i]? = some (.scenario label)) :
    InScenario tokens (i + 1) :=
  ⟨i, label, Nat.lt_succ_self i, ht, fun m hm hm' => absurd hm' (by omega)⟩

theorem not_inScenario_of_feature (ht : tokens[i]? = some (.feature label)) :
    ¬ InScenario tokens (i + 1) := by
  rintro ⟨j, label', hj, hscenario, hbetween⟩
  rcases Nat.lt_succ_iff_lt_or_eq.mp hj with hj | rfl
  · cases hbetween i hj (Nat.lt_succ_self i) _ ht
  · rw [ht] at hscenario
    cases hscenario

theorem inScenario_of_other (ht : tokens[i]? = some t) (hheading : t.isHeading = false) :
    InScenario tokens (i + 1) ↔ InScenario tokens i := by
  constructor
  · rintro ⟨j, label, hj, hscenario, hbetween⟩
    rcases Nat.lt_succ_iff_lt_or_eq.mp hj with hj | rfl
    · exact ⟨j, label, hj, hscenario, fun m hm hm' => hbetween m hm (Nat.lt_succ_of_lt hm')⟩
    · rw [ht] at hscenario
      cases hscenario
      cases hheading
  · rintro ⟨j, label, hj, hscenario, hbetween⟩
    refine ⟨j, label, Nat.lt_succ_of_lt hj, hscenario, fun m hm hm' u hu => ?_⟩
    rcases Nat.lt_succ_iff_lt_or_eq.mp hm' with hm' | rfl
    · exact hbetween m hm hm' u hu
    · rw [ht] at hu
      cases hu
      exact hheading

namespace Interpreter

theorem after_isOpen (n : Nat) (hn : n ≤ tokens.length) :
    (fresh.after (tokens.take n)).lifecycle.isOpen = true ↔ InScenario tokens n := by
  induction n with
  | zero =>
    constructor
    · intro h; cases h
    · rintro ⟨j, label, hj, -⟩; cases hj
  | succ n ih =>
    have ht : tokens[n]? = some tokens[n] := List.getElem?_eq_getElem hn
    specialize ih (Nat.le_of_succ_le hn)
    rw [after_take_succ fresh ht]
    generalize tokens[n] = u at ht
    cases u with
    | feature label => exact iff_of_false (by simp [next]) (not_inScenario_of_feature ht)
    | scenario label => exact iff_of_true rfl (inScenario_of_scenario ht)
    | step k text =>
      rw [next, resolve_isOpen, inScenario_of_other ht rfl]
      exact ih
    | text =>
      rw [inScenario_of_other ht rfl]
      exact ih

/-- Nothing is remembered outside of an open scenario. -/
theorem after_unscoped {i : Interpreter} (h : i.lifecycle.isOpen = true → i.unscoped = .fresh) :
    (i.after tokens).lifecycle.isOpen = true → (i.after tokens).unscoped = .fresh := by
  induction tokens generalizing i with
  | nil => exact h
  | cons t rest ih =>
    refine ih (i := i.next t) ?_
    cases t with
    | feature label => exact fun _ => rfl
    | scenario label => exact fun _ => rfl
    | step k text =>
      unfold next resolve Lifecycle.resolve? Lifecycle.isOpen
      unfold Lifecycle.isOpen at h
      cases hsession : i.lifecycle.session with
      | none => simp [hsession]
      | some session => simpa [hsession] using h
    | text => exact h

theorem after_unscoped_last : (fresh.after tokens).unscoped.last = some k ↔
    LeavesBehind tokens k := by
  have hopen : _ ↔ InScenario tokens _ := after_isOpen tokens.length (Nat.le_refl _)
  have hlast : _ ↔ Remembered tokens _ k := after_session_last tokens.length (Nat.le_refl _)
  rw [List.take_length] at hopen hlast
  unfold LeavesBehind
  rw [← hopen, ← hlast]
  cases ho : (fresh.after tokens).lifecycle.isOpen with
  | true =>
    rw [after_unscoped (fun h => (by cases h)) ho]
    simp [Session.fresh]
  | false =>
    have hsession : (fresh.after tokens).session = (fresh.after tokens).unscoped := by
      unfold Lifecycle.isOpen at ho
      rw [session, Option.isSome_eq_false_iff.mp ho |> Option.isNone_iff_eq_none.mp]
      rfl
    simp [hsession]

end Interpreter
end

theorem Stage.unscoped_of_interpret {E : Executor σ} {R : Reporter ρ} {s s' : Stage (Logged σ) ρ}
    {text source : String} (h : s.interpret E.logged R text source = (.ok (), s')) :
    s'.interpreter.unscoped =
      (s.interpreter.after ((scriptLines text source).map Line.token)).unscoped := by
  cases htaken : s.acceptAll E.logged R (scriptLines text source) with
  | mk taken t =>
    cases taken with
    | error e => rw [interpret_of_error htaken] at h; cases h
    | ok u =>
      obtain ⟨-, -, -, hafter⟩ := acceptAll_spec htaken
      rw [interpret_of_ok htaken] at h
      rw [(lifecycle_of_leave h).2, ← hafter rfl]

/-! ## Up to the first line that is no plain text -/

theorem opening_eq_none {lines : List Line} (h : opening? lines = none) :
    ∀ line ∈ lines, line.token = .text := by
  simpa [opening?] using h

theorem opening_eq_some {lines : List Line} {line : Line} (h : opening? lines = some line) :
    ∃ before rest, lines = before ++ line :: rest ∧ (∀ l ∈ before, l.token = .text) ∧
      line.token ≠ .text := by
  obtain ⟨hline, before, rest, hlines, hbefore⟩ := List.find?_eq_some_iff_append.mp h
  exact ⟨before, rest, hlines, by simpa using hbefore, by simpa using hline⟩

namespace Stage

variable {E : Executor σ} {R : Reporter ρ}

/-- Plain text is only reported. -/
def tell (R : Reporter ρ) (s : Stage σ ρ) (lines : List Line) : Stage σ ρ :=
  { s with reporter := R.reportAll s.reporter (lines.map .text) }

theorem acceptAll_of_text {before : List Line} (h : ∀ l ∈ before, l.token = .text)
    (s : Stage σ ρ) (rest : List Line) :
    s.acceptAll E R (before ++ rest) = (s.tell R before).acceptAll E R rest := by
  induction before generalizing s with
  | nil => rfl
  | cons line before ih =>
    obtain ⟨hline, hbefore⟩ := List.forall_mem_cons.mp h
    simp only [List.cons_append, acceptAll, accept, hline]
    exact ih hbefore _

theorem acceptToEnd_of_text {before : List Line} (h : ∀ l ∈ before, l.token = .text)
    (s : Stage σ ρ) (rest : List Line) (source : String) (lastLine : Nat) :
    s.acceptToEnd E R (before ++ rest) source lastLine =
      (s.tell R before).acceptToEnd E R rest source lastLine := by
  unfold acceptToEnd
  rw [acceptAll_of_text h]

end Stage

/-! ## Runs that come to the same -/

/-- A relation between the states of two runs: they are the same. -/
def Same (x : σ) (r : ρ) (y : σ) (u : ρ) : Prop := x = y ∧ r = u

theorem same_simulation (E : Executor σ) (R : Reporter ρ) : Simulation E R E R 0 Same where
  setUp := by rintro x r _ _ ⟨rfl, rfl⟩; exact ⟨_, rfl, rfl, rfl⟩
  tearDown := by rintro x r _ _ ⟨rfl, rfl⟩; exact ⟨_, rfl, rfl, rfl⟩
  execute := by rintro x r _ _ line w text k - ⟨rfl, rfl⟩; exact ⟨rfl, rfl⟩
  other := by rintro x r _ _ e - ⟨rfl, rfl⟩; exact ⟨rfl, by rw [Event.shift_zero]⟩

/-- The runs end with the same outcome and in the same states; what their interpreters remember may
differ. -/
structure Stage.EndsAs (run run' : Except InterpretError Unit × Stage σ ρ) : Prop where
  outcome : run.1 = run'.1
  executor : run.2.executor = run'.2.executor
  reporter : run.2.reporter = run'.2.reporter

theorem Stage.Alike.endsAs {run run' : Except InterpretError Unit × Stage σ ρ}
    (h : Stage.Alike 0 Same run run') : Stage.EndsAs run run' := by
  refine ⟨?_, h.states.1, h.states.2⟩
  rw [h.outcome, InterpretError.mapError_shift_zero]

/-- Outside of scenarios, a heading or a primary step is taken alike whatever is remembered. -/
theorem Simulation.accept_of_forgetful {τ υ : Type} {E : Executor σ} {R : Reporter ρ}
    {F : Executor τ} {S : Reporter υ} {n : Nat} {J : σ → ρ → τ → υ → Prop}
    (h : Simulation E R F S n J) {s : Stage σ ρ} {s' : Stage τ υ} {line : Line}
    (hs : s.interpreter.lifecycle.session = none) (hs' : s'.interpreter.lifecycle.session = none)
    (hJ : J s.executor s.reporter s'.executor s'.reporter) (htext : line.token ≠ .text)
    (hprimary : ∀ w text, line.token = .step w text → w.isConjunction = false) :
    Stage.Alike n J (s.accept E R line) (s'.accept F S (line.shift n)) := by
  cases htoken : line.token with
  | feature label => exact h.accept_heading (hs.trans hs'.symm) hJ (by rw [htoken]; rfl)
  | scenario label => exact h.accept_heading (hs.trans hs'.symm) hJ (by rw [htoken]; rfl)
  | step w text =>
    have hw := hprimary w text htoken
    unfold Stage.accept
    rw [Line.shift_token]
    simp only [htoken, Interpreter.resolve, Lifecycle.resolve?, hs, hs', Option.map_none,
      Session.resolve, hw]
    exact ⟨rfl, h.execute w htoken hJ, fun _ => ⟨hs.trans hs'.symm, rfl⟩⟩
  | text => exact absurd htoken htext

namespace Stage

variable {E : Executor σ} {R : Reporter ρ} {s s' : Stage σ ρ} {lines : List Line}

/-- Outside of scenarios, lines that do not open with a conjunction come to the same whatever is
remembered. -/
theorem acceptToEnd_endsAs (hs : s.interpreter.lifecycle.session = none)
    (hs' : s'.interpreter.lifecycle.session = none)
    (hsame : Same s.executor s.reporter s'.executor s'.reporter)
    (hopening : ∀ line ∈ opening? lines, ∀ w text, line.token = .step w text →
      w.isConjunction = false) (source : String) (lastLine : Nat) :
    EndsAs (s.acceptToEnd E R lines source lastLine)
      (s'.acceptToEnd E R lines source lastLine) := by
  have htell : ∀ before, Same (s.tell R before).executor (s.tell R before).reporter
      (s'.tell R before).executor (s'.tell R before).reporter := fun before =>
    ⟨hsame.1, congrArg (R.reportAll · _) hsame.2⟩
  cases hline : opening? lines with
  | none =>
    have htext := opening_eq_none hline
    rw [← List.append_nil lines, acceptToEnd_of_text htext, acceptToEnd_of_text htext]
    simp only [acceptToEnd, acceptAll, finish, leave, Lifecycle.leave, tell, hs, hs']
    exact ⟨rfl, hsame.1, (htell lines).2⟩
  | some line =>
    obtain ⟨before, rest, rfl, htext, hline'⟩ := opening_eq_some hline
    rw [acceptToEnd_of_text htext, acceptToEnd_of_text htext]
    have hsimulation := same_simulation E R
    have hfirst : Alike 0 Same ((s.tell R before).accept E R line)
        ((s'.tell R before).accept E R (line.shift 0)) :=
      hsimulation.accept_of_forgetful hs hs' (htell before) hline' (hopening line hline)
    have hlines := Simulation.acceptAll_cons hfirst fun ht => hsimulation.acceptAll ht rest
    have hend := hsimulation.acceptToEnd hlines source lastLine
    rw [Line.map_shift_zero] at hend
    exact hend.endsAs

/-- A conjunction that continues nothing stops the run before anything is executed. -/
theorem acceptToEnd_of_dangling {line : Line} {w : Keyword} {text : String}
    (ht : line.token = .step w text) (hlast : (s.interpreter.resolve w).1 = none)
    (rest : List Line) (source : String) (lastLine : Nat) :
    (s.acceptToEnd E R (line :: rest) source lastLine).1 = .error (.danglingConjunction w line) ∧
      (s.acceptToEnd E R (line :: rest) source lastLine).2.executor = s.executor := by
  have hresolve : s.interpreter.resolve w = (none, (s.interpreter.resolve w).2) :=
    Prod.ext hlast rfl
  simp only [acceptToEnd, acceptAll, accept, ht]
  rw [hresolve]
  exact ⟨rfl, rfl⟩

end Stage

/-! ## A conjunction that comes first -/

namespace Interpreter

theorem plan_of_text {before : List Line} (h : ∀ l ∈ before, l.token = .text) (i : Interpreter)
    (rest : List Line) :
    i.plan ((before ++ rest).map Line.token) = i.plan (rest.map Line.token) := by
  induction before with
  | nil => rfl
  | cons line before ih =>
    obtain ⟨hline, hbefore⟩ := List.forall_mem_cons.mp h
    rw [List.cons_append, List.map_cons, plan_cons, hline]
    exact ih hbefore

end Interpreter

theorem Answers.of_execute_cons {k : Keyword} {text : String} {acts : List Act} {calls : List Call}
    {outcome : Except InterpretError Unit}
    (h : Answers (.execute (some k) text :: acts) calls outcome) :
    ∃ result more, calls = .execute k text result :: more := by
  generalize hacts : Act.execute (some k) text :: acts = all at h
  cases h with
  | done => cases hacts
  | call hc hrest =>
    obtain ⟨hact, -⟩ := List.cons.inj hacts
    obtain ⟨k', result, hk, rfl⟩ := Call.eq_execute_of_act hact.symm
    cases hk
    exact ⟨result, _, rfl⟩
  | failed hc =>
    obtain ⟨hact, -⟩ := List.cons.inj hacts
    obtain ⟨k', result, -, rfl⟩ := Call.eq_execute_of_act hact.symm
    cases hc
  | dangling htoken => cases hacts

namespace Stage

variable {E : Executor σ} {R : Reporter ρ} {s : Stage (Logged σ) ρ}

theorem interpret_of_continued {text source t : String} {line : Line} {k w : Keyword}
    (hline : opening? (scriptLines text source) = some line) (ht : line.token = .step w t)
    (hk : (s.interpreter.resolve w).1 = some k) :
    ∃ result more, (s.interpret E.logged R text source).2.executor.calls =
      s.executor.calls ++ .execute k t result :: more := by
  cases hrun : s.interpret E.logged R text source with
  | mk outcome s' =>
    obtain ⟨calls, hadds, hans, -⟩ := interpret_spec hrun
    obtain ⟨before, rest, hlines, htext, -⟩ := opening_eq_some hline
    rw [hlines, Interpreter.plan_of_text htext, List.map_cons, Interpreter.plan_cons, ht,
      Interpreter.acts, ← Interpreter.resolve_fst, hk] at hans
    obtain ⟨result, more, hcalls⟩ := hans.of_execute_cons
    exact ⟨result, more, by rw [hadds.log, hcalls]⟩

end Stage

/-! ## Whole runs -/

/-- What an interpreter keeps between scripts. After a script that ends well, the next one is run as
with a fresh interpreter, unless the first leaves a keyword behind and the second opens with a
conjunction. That conjunction is then executed under the keyword left behind, where a fresh
interpreter stops before it executes anything. -/
theorem reuse_keeps_unscoped (E : Executor σ) (R : Reporter ρ) (x : σ) (r : ρ)
    {A a : String} (hA : (interpret E R x r A a).1 = .ok ()) (B b : String) :
    let tokens := (scriptLines A a).map Line.token
    let first := interpret E.logged R { state := x } r A a
    let reused := first.2.interpret E.logged R B b
    let fresh := interpret E.logged R first.2.executor first.2.reporter B b
    interpret E R x r A a = (first.1, first.2.map Logged.state id) ∧
    (first.2.map Logged.state id).interpret E R B b =
      (reused.1, reused.2.map Logged.state id) ∧
    ((∀ k, LeavesBehind tokens k → ∀ line ∈ opening? (scriptLines B b), ∀ w t,
        line.token = .step w t → w.isConjunction = false) → Stage.EndsAs reused fresh) ∧
    ∀ k line w t, LeavesBehind tokens k → opening? (scriptLines B b) = some line →
      line.token = .step w t → w.isConjunction = true →
      fresh.1 = .error (.danglingConjunction w line) ∧ fresh.2.executor = first.2.executor ∧
      ∃ result more, reused.2.executor.calls =
        first.2.executor.calls ++ .execute k t result :: more := by
  intro tokens first reused fresh
  have hlogged : interpret E R x r A a = (first.1, first.2.map Logged.state id) :=
    interpret_logged E R { state := x } r A a
  rw [hlogged] at hA
  have hfirst : Stage.interpret E.logged R { executor := { state := x }, reporter := r } A a =
      (.ok (), first.2) := Prod.ext hA rfl
  have hclosed : first.2.interpreter.lifecycle.session = none := Stage.session_of_interpret hfirst
  have hunscoped : ∀ k, first.2.interpreter.unscoped.last = some k ↔ LeavesBehind tokens k := by
    intro k
    rw [Stage.unscoped_of_interpret hfirst]
    exact Interpreter.after_unscoped_last
  have hresolve : ∀ w, w.isConjunction = true →
      (first.2.interpreter.resolve w).1 = first.2.interpreter.unscoped.last := by
    intro w hw
    rw [Interpreter.resolve_fst, Interpreter.session, hclosed, Session.resolve, if_pos hw]
    rfl
  let start : Stage (Logged σ) ρ :=
    { executor := first.2.executor, reporter := first.2.reporter }
  refine ⟨hlogged, Stage.interpret_map E.logged_projects (.refl R) first.2 B b, ?_, ?_⟩
  · intro hfree
    cases hlast : first.2.interpreter.unscoped.last with
    | none =>
      have hagrees : first.2.interpreter.Agrees start.interpreter :=
        ⟨hclosed, congrArg Session.mk hlast⟩
      exact ((same_simulation E.logged R).interpret ⟨hagrees, rfl, rfl⟩ B b).endsAs
    | some k =>
      have hstart : start.interpreter.lifecycle.session = none := rfl
      exact Stage.acceptToEnd_endsAs hclosed hstart ⟨rfl, rfl⟩
        (hfree k ((hunscoped k).mp hlast)) b (scriptLines B b).length
  · intro k line w t hbehind hline ht hw
    obtain ⟨before, rest, hlines, htext, -⟩ := opening_eq_some hline
    have hfresh : fresh = (start.tell R before).acceptToEnd E.logged R (line :: rest) b
        (scriptLines B b).length := by
      rw [← Stage.acceptToEnd_of_text htext, ← hlines]
      rfl
    have hnone : ((start.tell R before).interpreter.resolve w).1 = none := by
      rw [Interpreter.resolve_fst, Session.resolve, if_pos hw]
      rfl
    obtain ⟨houtcome, hexecutor⟩ := Stage.acceptToEnd_of_dangling (E := E.logged) (R := R) ht hnone
      rest b (scriptLines B b).length
    rw [← hfresh] at houtcome hexecutor
    exact ⟨houtcome, hexecutor, Stage.interpret_of_continued hline ht
      ((hresolve w hw).trans ((hunscoped k).mpr hbehind))⟩

/-- A conjunction that continues a step of the script before. -/
theorem reuse_continues_given :
    let first := interpret Executor.null.logged Recording.report { state := () } {}
      "Given a\n" "a"
    let reused := first.2.interpret Executor.null.logged Recording.report "And b\n" "b"
    let fresh := interpret Executor.null.logged Recording.report first.2.executor
      first.2.reporter "And b\n" "b"
    (interpret Executor.null Recording.report () {} "Given a\n" "a").1 = .ok () ∧
    LeavesBehind ((scriptLines "Given a\n" "a").map Line.token) .given ∧
    fresh.1 = .error (.danglingConjunction .and ⟨"And b", 1, "b"⟩) ∧
    ∃ result more, reused.2.executor.calls =
      first.2.executor.calls ++ .execute .given "b" result :: more := by
  have hA : (interpret Executor.null Recording.report () {} "Given a\n" "a").1 = .ok () := rfl
  have hbehind : LeavesBehind ((scriptLines "Given a\n" "a").map Line.token) .given :=
    Interpreter.after_unscoped_last.mp rfl
  have hline : opening? (scriptLines "And b\n" "b") = some ⟨"And b", 1, "b"⟩ := by decide
  obtain ⟨-, -, -, hconjunction⟩ :=
    reuse_keeps_unscoped Executor.null Recording.report () {} hA "And b\n" "b"
  obtain ⟨hfresh, -, hreused⟩ := hconjunction .given _ .and "b" hbehind hline rfl rfl
  exact ⟨hA, hbehind, hfresh, hreused⟩

/-- The interpreter that ran a script before takes a script that a fresh one refuses. -/
theorem reuse_differs :
    let first := interpret Executor.null Recording.report () {} "Given a\n" "a"
    let reused := first.2.interpret Executor.null Recording.report "And b\n" "b"
    let fresh := interpret Executor.null Recording.report first.2.executor first.2.reporter
      "And b\n" "b"
    first.1 = .ok () ∧ reused.1 = .ok () ∧
      fresh.1 = .error (.danglingConjunction .and ⟨"And b", 1, "b"⟩) :=
  ⟨rfl, rfl, rfl⟩

end FeatureScript
