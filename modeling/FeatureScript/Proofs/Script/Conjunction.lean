import FeatureScript.Proofs.Script.Transcript
import FeatureScript.Proofs.Step.Dispatch
import Mathlib.Data.Nat.Find

/-!
# FeatureScript.Proofs.Script.Conjunction

The keyword a step is executed under, told from the lines of its script.

Line `i` may continue line `j` above it if a primary keyword is written there and no heading stands
between the two; the nearest such line governs it. `Interpreter.after_session_last` is the
invariant: what the session in force remembers, be it the open scenario's or the one outside of any,
is the last primary keyword written since the last heading. `steps_follow_governing_keyword`: every
step that is executed is executed under the keyword that governs its line, and a run is stopped by a
dangling conjunction exactly at a conjunction without such a line.
-/

namespace FeatureScript

variable {σ ρ : Type}

/-- A primary keyword is written on line `j`. -/
def Written (tokens : List Token) (j : Nat) (k : Keyword) : Prop :=
  k.isConjunction = false ∧ ∃ text, tokens[j]? = some (.step k text)

/-- Line `i` may continue line `j`: a primary keyword is written there, and no heading stands
strictly between them. -/
def Continues (tokens : List Token) (i j : Nat) (k : Keyword) : Prop :=
  j ≤ i ∧ Written tokens j k ∧
    ∀ m, j < m → m < i → ∀ t, tokens[m]? = some t → t.isHeading = false

/-- `k` is written on the nearest line that line `i` may continue. -/
def Governs (tokens : List Token) (i : Nat) (k : Keyword) : Prop :=
  ∃ j, Continues tokens i j k ∧ ∀ j' k', Continues tokens i j' k' → j' ≤ j

/-- `k` is the last primary keyword written above line `i`, and no heading follows it there. -/
def Remembered (tokens : List Token) (i : Nat) (k : Keyword) : Prop :=
  ∃ j, j < i ∧ Written tokens j k ∧ ∀ m, j < m → m < i → ∀ t, tokens[m]? = some t →
    t.isHeading = false ∧ ∀ k', ¬ Written tokens m k'

section

variable {tokens : List Token} {i : Nat} {t : Token} {k k' : Keyword}

theorem Written.unique {j : Nat} (h : Written tokens j k) (h' : Written tokens j k') : k = k' := by
  obtain ⟨-, text, ht⟩ := h
  obtain ⟨-, text', ht'⟩ := h'
  rw [ht] at ht'
  cases ht'
  rfl

theorem not_written_of_conjunction {w : Keyword} {text : String}
    (ht : tokens[i]? = some (.step w text)) (hw : w.isConjunction = true) :
    ¬ Written tokens i k := by
  rintro ⟨hk, text', ht'⟩
  rw [ht] at ht'
  cases ht'
  rw [hw] at hk
  cases hk

theorem not_written_of_text (ht : tokens[i]? = some .text) : ¬ Written tokens i k := by
  rintro ⟨-, text, ht'⟩
  rw [ht] at ht'
  cases ht'

/-! ## What is remembered, line by line -/

theorem not_remembered_of_heading (ht : tokens[i]? = some t) (hheading : t.isHeading = true) :
    ¬ Remembered tokens (i + 1) k := by
  rintro ⟨j, hj, ⟨-, text, hwritten⟩, hbetween⟩
  rcases Nat.lt_succ_iff_lt_or_eq.mp hj with hj | rfl
  · rw [(hbetween i hj (Nat.lt_succ_self i) t ht).1] at hheading
    cases hheading
  · rw [ht] at hwritten
    cases hwritten
    cases hheading

theorem remembered_of_written (h : Written tokens i k') :
    Remembered tokens (i + 1) k ↔ k' = k := by
  constructor
  · rintro ⟨j, hj, hwritten, hbetween⟩
    rcases Nat.lt_succ_iff_lt_or_eq.mp hj with hj | rfl
    · obtain ⟨-, text, ht⟩ := id h
      exact absurd h ((hbetween i hj (Nat.lt_succ_self i) _ ht).2 k')
    · exact h.unique hwritten
  · rintro rfl
    exact ⟨i, Nat.lt_succ_self i, h, fun m hm hm' => absurd hm' (by omega)⟩

theorem remembered_of_other (ht : tokens[i]? = some t) (hheading : t.isHeading = false)
    (h : ∀ k', ¬ Written tokens i k') :
    Remembered tokens (i + 1) k ↔ Remembered tokens i k := by
  constructor
  · rintro ⟨j, hj, hwritten, hbetween⟩
    rcases Nat.lt_succ_iff_lt_or_eq.mp hj with hj | rfl
    · exact ⟨j, hj, hwritten, fun m hm hm' => hbetween m hm (Nat.lt_succ_of_lt hm')⟩
    · exact absurd hwritten (h k)
  · rintro ⟨j, hj, hwritten, hbetween⟩
    refine ⟨j, Nat.lt_succ_of_lt hj, hwritten, fun m hm hm' u hu => ?_⟩
    rcases Nat.lt_succ_iff_lt_or_eq.mp hm' with hm' | rfl
    · exact hbetween m hm hm' u hu
    · rw [ht] at hu
      cases hu
      exact ⟨hheading, h⟩

namespace Interpreter

theorem next_session_of_heading (i : Interpreter) (ht : t.isHeading = true) :
    (i.next t).session = .fresh := by
  cases t with
  | feature label => simp [next, session]
  | scenario label => simp [next, session]
  | step k text => cases ht
  | text => cases ht

theorem after_take_succ (i : Interpreter) {n : Nat} (ht : tokens[n]? = some t) :
    i.after (tokens.take (n + 1)) = (i.after (tokens.take n)).next t := by
  rw [after, List.take_add_one, ht, List.foldl_append]
  rfl

/-- The session in force remembers the last primary keyword since the last heading. -/
theorem after_session_last (n : Nat) (hn : n ≤ tokens.length) :
    (fresh.after (tokens.take n)).session.last = some k ↔ Remembered tokens n k := by
  induction n with
  | zero =>
    constructor
    · intro h; cases h
    · rintro ⟨j, hj, -⟩; cases hj
  | succ n ih =>
    have ht : tokens[n]? = some tokens[n] := List.getElem?_eq_getElem hn
    specialize ih (Nat.le_of_succ_le hn)
    rw [after_take_succ fresh ht]
    cases hheading : (tokens[n]).isHeading with
    | true =>
      rw [next_session_of_heading _ hheading]
      exact ⟨fun h => (by cases h), fun h => absurd h (not_remembered_of_heading ht hheading)⟩
    | false =>
      generalize tokens[n] = u at ht hheading
      cases u with
      | feature label => cases hheading
      | scenario label => cases hheading
      | step k' text =>
        rw [next, resolve_session, Session.resolve]
        cases hk : k'.isConjunction with
        | false =>
          rw [remembered_of_written ⟨hk, text, ht⟩]
          exact ⟨fun h => (by cases h; rfl), fun h => (by rw [h]; rfl)⟩
        | true =>
          rw [remembered_of_other ht hheading fun _ => not_written_of_conjunction ht hk, ← ih]
          rfl
      | text =>
        rw [remembered_of_other ht hheading fun _ => not_written_of_text ht, ← ih]
        rfl

end Interpreter

/-! ## The governing keyword of a step -/

theorem exists_governs {j : Nat} (h : Continues tokens i j k) : ∃ k', Governs tokens i k' := by
  classical
  let P := fun j => ∃ k, Continues tokens i j k
  obtain ⟨k', hk'⟩ : P (Nat.findGreatest P i) := Nat.findGreatest_spec h.1 ⟨k, h⟩
  exact ⟨k', _, hk', fun j' k'' h' => Nat.le_findGreatest h'.1 ⟨k'', h'⟩⟩

theorem governs_of_written (h : Written tokens i k') : Governs tokens i k ↔ k' = k := by
  have hself : Continues tokens i i k' :=
    ⟨Nat.le_refl i, h, fun m hm hm' => absurd hm' (by omega)⟩
  constructor
  · rintro ⟨j, hcontinues, hnearest⟩
    have hj : j = i := Nat.le_antisymm hcontinues.1 (hnearest i k' hself)
    rw [hj] at hcontinues
    exact h.unique hcontinues.2.1
  · rintro rfl
    exact ⟨i, hself, fun j' k'' h' => h'.1⟩

theorem Governs.unique (h : Governs tokens i k) (h' : Governs tokens i k') : k = k' := by
  obtain ⟨j, hcontinues, hnearest⟩ := h
  obtain ⟨j', hcontinues', hnearest'⟩ := h'
  have hj : j = j' :=
    Nat.le_antisymm (hnearest' j k hcontinues) (hnearest j' k' hcontinues')
  rw [hj] at hcontinues
  exact hcontinues.2.1.unique hcontinues'.2.1

theorem Governs.primary (h : Governs tokens i k) : k.isConjunction = false := by
  obtain ⟨j, ⟨-, hwritten, -⟩, -⟩ := h
  exact hwritten.1

theorem governs_of_not_written (h : ∀ k', ¬ Written tokens i k') :
    Governs tokens i k ↔ Remembered tokens i k := by
  constructor
  · rintro ⟨j, ⟨hj, hwritten, hbetween⟩, hnearest⟩
    have hne : j ≠ i := by rintro rfl; exact h k hwritten
    refine ⟨j, by omega, hwritten, fun m hm hm' u hu => ⟨hbetween m hm hm' u hu, fun k' hk' => ?_⟩⟩
    -- a primary keyword in between would be nearer
    have hle := hnearest m k'
      ⟨Nat.le_of_lt hm', hk', fun n hn hn' => hbetween n (Nat.lt_trans hm hn) hn'⟩
    omega
  · rintro ⟨j, hj, hwritten, hbetween⟩
    refine ⟨j, ⟨Nat.le_of_lt hj, hwritten, fun m hm hm' u hu => (hbetween m hm hm' u hu).1⟩, ?_⟩
    rintro j' k' ⟨hj', hwritten', -⟩
    have hne : j' ≠ i := by rintro rfl; exact h k' hwritten'
    obtain ⟨-, text, ht⟩ := id hwritten'
    by_cases hlt : j < j'
    · exact absurd hwritten' ((hbetween j' hlt (by omega) _ ht).2 k')
    · omega

theorem governs_iff_resolve {w : Keyword} {text : String} (ht : tokens[i]? = some (.step w text)) :
    Governs tokens i k ↔
      ((Interpreter.fresh.after (tokens.take i)).session.resolve w).1 = some k := by
  have hi : i ≤ tokens.length := Nat.le_of_lt (List.getElem?_eq_some_iff.mp ht).1
  rw [Session.resolve]
  cases hw : w.isConjunction with
  | false =>
    rw [governs_of_written ⟨hw, text, ht⟩]
    exact ⟨fun h => (by rw [h]; rfl), fun h => (by cases h; rfl)⟩
  | true =>
    rw [governs_of_not_written fun _ => not_written_of_conjunction ht hw,
      ← Interpreter.after_session_last i hi]
    rfl

theorem resolve_none_iff {w : Keyword} {text : String} (ht : tokens[i]? = some (.step w text)) :
    ((Interpreter.fresh.after (tokens.take i)).session.resolve w).1 = none ↔
      ¬ ∃ j k, Continues tokens i j k := by
  rw [Option.eq_none_iff_forall_ne_some]
  constructor
  · rintro h ⟨j, k, hcontinues⟩
    obtain ⟨k', hk'⟩ := exists_governs hcontinues
    exact h k' ((governs_iff_resolve ht).mp hk')
  · intro h k hk
    obtain ⟨j, hcontinues, -⟩ := (governs_iff_resolve ht).mpr hk
    exact h ⟨j, k, hcontinues⟩

theorem Interpreter.mem_acts_execute {i : Interpreter} {text : String} {keyword : Option Keyword}
    (h : .execute keyword text ∈ i.acts t) :
    ∃ w, t = .step w text ∧ (i.session.resolve w).1 = keyword := by
  have hclosing : Act.execute keyword text ∉ i.lifecycle.closing := by
    unfold Lifecycle.closing
    split <;> simp
  cases t with
  | feature label => exact absurd h hclosing
  | scenario label =>
    rcases List.mem_append.mp h with h | h
    · exact absurd h hclosing
    · cases List.mem_singleton.mp h
  | step w text' => cases List.mem_singleton.mp h; exact ⟨w, rfl, rfl⟩
  | text => cases h

end

theorem token_getElem_iff {lines : List Line} {i : Nat} {t : Token} :
    (lines.map Line.token)[i]? = some t ↔ ∃ line, lines[i]? = some line ∧ line.token = t := by
  rw [List.getElem?_map, Option.map_eq_some_iff]

namespace Stage

variable {E : Executor σ} {R : Reporter ρ} {s : Stage (Logged σ) ρ} {lines : List Line} {i : Nat}
  {line : Line} {w : Keyword} {text : String}

/-- A step that is reached is executed under the keyword that governs its line, or stops the run. -/
theorem at_step (hs : s.interpreter = .fresh) (hline : lines[i]? = some line)
    (ht : line.token = .step w text) (hreach : s.Reaches E.logged R lines i) :
    (∃ k result, Governs (lines.map Line.token) i k ∧
        s.callsAt E R lines i = [.execute k text result]) ∨
      ((¬ ∃ j k, Continues (lines.map Line.token) i j k) ∧ s.callsAt E R lines i = [] ∧
        (s.upTo E.logged R lines (i + 1)).1 = .error (.danglingConjunction w line)) := by
  have htoken : (lines.map Line.token)[i]? = some (.step w text) :=
    token_getElem_iff.mpr ⟨line, hline, ht⟩
  obtain ⟨hinterpreter, -, hans, hmoves⟩ := at_line hline hreach
  rw [hinterpreter, hs, ht] at hans
  rcases hans.of_execute with ⟨k, result, hk, hcalls, -⟩ | ⟨hk, hcalls, k, l, hl, houtcome⟩
  · exact .inl ⟨k, result, (governs_iff_resolve htoken).mpr hk, hcalls⟩
  · rw [houtcome] at hmoves
    have hat : l = line := hmoves.1
    rw [hat, ht] at hl
    cases hl
    rw [hat] at houtcome
    exact .inr ⟨(resolve_none_iff htoken).mp hk, hcalls, houtcome⟩

theorem executed_iff (hs : s.interpreter = .fresh) (k : Keyword) (text : String) :
    (∃ result, .execute k text result ∈ s.callsAt E R lines i) ↔
      s.Reaches E.logged R lines i ∧ (∃ w, (lines.map Line.token)[i]? = some (.step w text)) ∧
        Governs (lines.map Line.token) i k := by
  constructor
  · rintro ⟨result, hmem⟩
    by_cases hreach : s.Reaches E.logged R lines i
    · cases hline : lines[i]? with
      | none =>
        rw [callsAt_of_length_le (List.getElem?_eq_none_iff.mp hline)] at hmem
        cases hmem
      | some line =>
        obtain ⟨hinterpreter, -, hans, -⟩ := at_line hline hreach
        obtain ⟨w, ht, hk⟩ := Interpreter.mem_acts_execute (hans.mem_acts hmem)
        have htoken : (lines.map Line.token)[i]? = some (.step w text) :=
          token_getElem_iff.mpr ⟨line, hline, ht⟩
        rw [hinterpreter, hs] at hk
        exact ⟨hreach, ⟨w, htoken⟩, (governs_iff_resolve htoken).mpr hk⟩
    · rw [callsAt_of_not_reaches hreach] at hmem
      cases hmem
  · rintro ⟨hreach, ⟨w, htoken⟩, hgoverns⟩
    obtain ⟨line, hline, ht⟩ := token_getElem_iff.mp htoken
    rcases at_step hs hline ht hreach with ⟨k', result, hgoverns', hcalls⟩ | ⟨hnone, -, -⟩
    · have hk := (governs_iff_resolve htoken).mp hgoverns
      rw [(governs_iff_resolve htoken).mp hgoverns'] at hk
      cases hk
      exact ⟨result, by rw [hcalls]; exact List.mem_cons_self⟩
    · obtain ⟨j, hcontinues, -⟩ := hgoverns
      exact absurd ⟨j, k, hcontinues⟩ hnone

/-- An error that dangles does so at a step that is reached, may continue no line, and is not
executed. -/
theorem dangling_at {script source : String} (hs : s.interpreter = .fresh)
    (h : (s.interpret E.logged R script source).1 = .error (.danglingConjunction w line)) :
    let lines := scriptLines script source
    ∃ i text, lines[i]? = some line ∧ line.token = .step w text ∧ s.Reaches E.logged R lines i ∧
      (¬ ∃ j k, Continues (lines.map Line.token) i j k) ∧ s.callsAt E R lines i = [] := by
  obtain ⟨i, line', hline, hreach, hat, hans, -⟩ := exists_error_line (interpret_dangling_iff.mp h)
  have hat' : line = line' := hat
  subst hat'
  obtain ⟨-, text, rest, ht, -⟩ := hans.account
  rcases at_step hs hline ht hreach with ⟨k, result, -, hcalls⟩ | ⟨hnone, hcalls, -⟩
  · rw [hcalls, ht] at hans
    rcases hans.of_execute with ⟨k', result', -, -, h⟩ | ⟨-, h, -⟩
    · cases h
    · cases h
  · exact ⟨i, text, hline, ht, hreach, hnone, hcalls⟩

theorem dangling_iff {script source : String} (hs : s.interpreter = .fresh)
    (hlines : lines = scriptLines script source) (hline : lines[i]? = some line)
    (ht : line.token = .step w text) :
    (s.interpret E.logged R script source).1 = .error (.danglingConjunction w line) ↔
      w.isConjunction = true ∧ s.Reaches E.logged R lines i ∧
        ¬ ∃ j k, Continues (lines.map Line.token) i j k := by
  subst hlines
  constructor
  · intro herror
    obtain ⟨i', text', hline', -, hreach, hnone, -⟩ := dangling_at hs herror
    have hi : i' = i := by
      have hnumber := (scriptLines_getElem hline).1
      have hnumber' := (scriptLines_getElem hline').1
      omega
    subst hi
    refine ⟨?_, hreach, hnone⟩
    cases hw : w.isConjunction with
    | true => rfl
    | false =>
      obtain ⟨j, hcontinues, -⟩ :=
        (governs_of_written ⟨hw, text, token_getElem_iff.mpr ⟨line, hline, ht⟩⟩).mpr rfl
      exact absurd ⟨j, w, hcontinues⟩ hnone
  · rintro ⟨-, hreach, hnone⟩
    rw [interpret_dangling_iff]
    rcases at_step hs hline ht hreach with ⟨k, result, ⟨j, hcontinues, -⟩, -⟩ | ⟨-, -, hstop⟩
    · exact absurd ⟨j, k, hcontinues⟩ hnone
    · exact acceptAll_of_stop hline hstop

theorem executed_primary (hs : s.interpreter = .fresh) {k : Keyword} {result : StepResult}
    (h : .execute k text result ∈ s.callsAt E R lines i) : k.isConjunction = false := by
  obtain ⟨-, -, hgoverns⟩ := (executed_iff hs k text).mp ⟨result, h⟩
  exact hgoverns.primary

end Stage

/-! ## Steps that are told of -/

/-- A step that a run tells of was executed under the keyword that governs its line. -/
theorem reported_step {E : Executor σ} {x : σ} {text source : String} {line : Line}
    {result : StepResult} (h : .step line result ∈
      (interpret E Recording.report x {} text source).2.reporter.events) :
    ∃ i w t k y, (scriptLines text source)[i]? = some line ∧ line.token = .step w t ∧
      Governs ((scriptLines text source).map Line.token) i k ∧ (E.execute y k t).1 = result := by
  let start : Stage (Logged σ) Recording := { executor := { state := x }, reporter := {} }
  rw [interpret_logged E Recording.report { state := x }] at h
  obtain ⟨n, hlength, hevents⟩ := Stage.interpret_narrates (E := E) (s := start) rfl text source
  obtain ⟨i, hi⟩ := List.getElem?_of_mem h
  have hin : i < n := hlength ▸ (List.getElem?_eq_some_iff.mp hi).1
  obtain ⟨line', e, hline, he, hrec⟩ := hevents i hin
  have he' : e = .step line result := Option.some.inj (he.symm.trans hi)
  rw [he', Recounts] at hrec
  split at hrec
  · cases hrec
  · cases hrec
  · rename_i w t htoken
    obtain ⟨k, result, hcalls, heq⟩ := hrec
    cases heq
    have hmem := hcalls ▸ List.mem_singleton_self _
    obtain ⟨hreach, -, hgoverns⟩ := (Stage.executed_iff rfl k _).mp ⟨_, hmem⟩
    obtain ⟨-, hadds, -, -⟩ := Stage.at_line hline hreach
    obtain ⟨y, hy⟩ := hadds.served.result_eq hmem
    exact ⟨i, w, t, k, y, hline, htoken, hgoverns, hy⟩
  · cases hrec

/-- If steps are missing under the keyword they are executed under, no event tells of one that is
missing under a conjunction. -/
theorem missing_primary {E : Executor σ} (x : σ) (text source : String) {line : Line} {k : Keyword}
    (hE : ∀ y k t k', (E.execute y k t).1 = .missing k' → k' = k)
    (h : .step line (.missing k) ∈
      (interpret E Recording.report x {} text source).2.reporter.events) :
    k.isConjunction = false := by
  obtain ⟨i, w, t, k', y, -, -, hgoverns, hy⟩ := reported_step h
  rw [hE _ _ _ _ hy]
  exact hgoverns.primary

/-! ## Whole runs -/

/-- Steps follow the keyword that governs them. Whatever is executed for a line is executed under
the keyword of the nearest line that it may continue; the run is stopped by a dangling conjunction
exactly at a conjunction that is reached and has no such line, and nothing is executed for that one.
So no step is executed under a conjunction, nor is one missing under a conjunction. -/
theorem steps_follow_governing_keyword (E : Executor σ) (R : Reporter ρ) (x : σ) (r : ρ)
    (text source : String) :
    let lines := scriptLines text source
    let tokens := lines.map Line.token
    let start : Stage (Logged σ) ρ := { executor := { state := x }, reporter := r }
    let run := interpret E.logged R { state := x } r text source
    interpret E R x r text source = (run.1, run.2.map Logged.state id) ∧
    (∃ atEnd, run.2.executor.calls =
        (List.range lines.length).flatMap (start.callsAt E R lines) ++ atEnd ∧
      ∀ k t result, Call.execute k t result ∉ atEnd) ∧
    (∀ i k t, (∃ result, .execute k t result ∈ start.callsAt E R lines i) ↔
      start.Reaches E.logged R lines i ∧ (∃ w, tokens[i]? = some (.step w t)) ∧
        Governs tokens i k) ∧
    (∀ i line w t, lines[i]? = some line → line.token = .step w t →
      (run.1 = .error (.danglingConjunction w line) ↔
        w.isConjunction = true ∧ start.Reaches E.logged R lines i ∧
          ¬ ∃ j k, Continues tokens i j k)) ∧
    (∀ w line, run.1 = .error (.danglingConjunction w line) →
      ∃ i t, lines[i]? = some line ∧ line.token = .step w t ∧
        start.callsAt E R lines i = []) ∧
    (∀ k t result, .execute k t result ∈ run.2.executor.calls → k.isConjunction = false) ∧
    (∀ (W : Type) (p : Provider W) (w : W) line k, .step line (.missing k) ∈
        (interpret p.executor Recording.report w {} text source).2.reporter.events →
      k.isConjunction = false) ∧
    (∀ line k, .step line (.missing k) ∈
        (interpret Executor.null Recording.report () {} text source).2.reporter.events →
      k.isConjunction = false) := by
  intro lines tokens start run
  obtain ⟨atEnd, hcalls, hend⟩ := Stage.interpret_calls E R start text source
  have hcalls' : run.2.executor.calls =
      (List.range lines.length).flatMap (start.callsAt E R lines) ++ atEnd := hcalls
  refine ⟨interpret_logged E R { state := x } r text source, ⟨atEnd, hcalls', hend⟩,
    fun i k t => Stage.executed_iff rfl k t,
    fun i line w t hline ht => Stage.dangling_iff rfl rfl hline ht,
    ?_, ?_, ?_, ?_⟩
  · intro w line h
    obtain ⟨i, t, hline, ht, -, -, hnone⟩ := Stage.dangling_at rfl h
    exact ⟨i, t, hline, ht, hnone⟩
  · intro k t result h
    rw [hcalls'] at h
    rcases List.mem_append.mp h with h | h
    · obtain ⟨i, -, hi⟩ := List.mem_flatMap.mp h
      exact Stage.executed_primary rfl hi
    · exact absurd h (hend k t result)
  · intro W p w line k h
    exact missing_primary w text source (fun _ _ _ _ => dispatch_missing) h
  · intro line k h
    exact missing_primary () text source (fun _ _ _ _ h => by cases h; rfl) h

end FeatureScript
