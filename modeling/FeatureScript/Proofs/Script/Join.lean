import FeatureScript.Proofs.Script.Progress
import FeatureScript.Proofs.Script.Simulation
import FeatureScript.Proofs.Text.Lines

/-!
# FeatureScript.Proofs.Script.Join

One script behind another.

A script that is empty or ends its last line keeps its lines whatever comes behind it, and the lines
behind it are numbered on (`scriptLines_append`). A heading closes the open scenario as the end of a
script does (`Stage.accept_of_leave`). `headings_isolate`: running two scripts in one, where the
second begins with a heading, comes to running them one after the other, each with a fresh
interpreter.
-/

namespace FeatureScript

variable {σ ρ : Type}

/-! ## Lines -/

theorem scriptLines_append {A : String} (h : A = "" ∨ A.toList.getLast? = some '\n')
    (B source : String) :
    scriptLines (A ++ B) source = scriptLines A source ++
      (scriptLines B source).map (.shift (scriptLines A source).length) := by
  have hlines : Text.lines (A ++ B).toList = Text.lines A.toList ++ Text.lines B.toList := by
    rw [String.toList_append]
    exact Text.lines_append (h.imp_left fun h => by rw [h]; rfl) _
  unfold scriptLines
  rw [hlines, List.zipIdx_append, List.map_append, List.map_map, List.length_map,
    List.length_zipIdx]
  congr 1
  rw [List.zipIdx_eq_map_add (i := 1 + _), List.zipIdx_eq_map_add (i := 1), List.map_map,
    List.map_map]
  refine List.map_congr_left fun p _ => ?_
  simp [Line.shift, Nat.add_assoc, Nat.add_comm]

/-! ## Closing -/

namespace Lifecycle

variable {E : Executor σ} {l l' : Lifecycle} {x x' : σ}

theorem session_of_leave (h : l.leave E x = (.ok (), l', x')) : l'.session = none := by
  unfold leave at h
  cases hsession : l.session with
  | none => rw [hsession] at h; cases h; exact hsession
  | some session =>
    cases hdown : E.tearDown x with
    | mk answer y =>
      simp only [hsession, hdown] at h
      cases answer with
      | ok u => cases h; rfl
      | error e => cases h

theorem leave_of_leave (h : l.leave E x = (.ok (), l', x')) :
    l'.leave E x' = (.ok (), l', x') := by
  rw [leave, session_of_leave h]

theorem enter_of_leave (h : l.leave E x = (.ok (), l', x')) : l.enter E x = l'.enter E x' := by
  unfold enter
  rw [h, leave_of_leave h]

end Lifecycle

namespace Stage

variable {E : Executor σ} {R : Reporter ρ} {s s' : Stage σ ρ} {source : String} {number : Nat}

theorem lifecycle_of_leave (h : s.leave E source number = (.ok (), s')) :
    s.interpreter.lifecycle.leave E s.executor =
        (.ok (), s'.interpreter.lifecycle, s'.executor) ∧
      s' = { s with
        interpreter := { s.interpreter with lifecycle := s'.interpreter.lifecycle }
        executor := s'.executor } := by
  unfold leave at h
  cases hleave : s.interpreter.lifecycle.leave E s.executor with
  | mk outcome rest =>
    rw [hleave] at h
    cases outcome with
    | error e => cases h
    | ok u => cases h; exact ⟨rfl, rfl⟩

/-- A heading does what it does behind the end of a script. -/
theorem accept_of_leave {line : Line} (h : s.leave E source number = (.ok (), s'))
    (ht : line.token.isHeading = true) : s.accept E R line = s'.accept E R line := by
  obtain ⟨hleave, hs'⟩ := lifecycle_of_leave h
  rw [hs']
  unfold accept
  cases htoken : line.token with
  | feature label => simp only [leave, hleave, Lifecycle.leave_of_leave hleave]
  | scenario label => simp only [enter, Lifecycle.enter_of_leave hleave]
  | step w text => rw [htoken] at ht; cases ht
  | text => rw [htoken] at ht; cases ht

theorem acceptAll_of_leave {line : Line} (h : s.leave E source number = (.ok (), s'))
    (ht : line.token.isHeading = true) (rest : List Line) :
    s.acceptAll E R (line :: rest) = s'.acceptAll E R (line :: rest) := by
  simp only [acceptAll, accept_of_leave h ht]

/-- No scenario is open behind a script that was run well. -/
theorem session_of_interpret {text : String} (h : s.interpret E R text source = (.ok (), s')) :
    s'.interpreter.lifecycle.session = none := by
  cases htaken : s.acceptAll E R (scriptLines text source) with
  | mk taken t =>
    cases taken with
    | error e => rw [interpret_of_error htaken] at h; cases h
    | ok u =>
      rw [interpret_of_ok htaken] at h
      exact Lifecycle.session_of_leave (lifecycle_of_leave h).1

/-- A script that runs well leaves the lines behind it to the stage at its end. -/
theorem interpret_append {A B : String} {heading : Line} {rest : List Line}
    (hA : A = "" ∨ A.toList.getLast? = some '\n')
    (hfirst : s.interpret E R A source = (.ok (), s'))
    (hB : scriptLines B source = heading :: rest) (ht : heading.token.isHeading = true) :
    let n := (scriptLines A source).length
    s.interpret E R (A ++ B) source =
      s'.acceptToEnd E R ((scriptLines B source).map (.shift n)) source
        ((scriptLines B source).length + n) := by
  intro n
  have hlines := scriptLines_append hA B source
  have hlength : (scriptLines (A ++ B) source).length = (scriptLines B source).length + n := by
    rw [hlines, List.length_append, List.length_map, Nat.add_comm]
  cases htaken : s.acceptAll E R (scriptLines A source) with
  | mk taken t =>
    cases taken with
    | error e => rw [interpret_of_error htaken] at hfirst; cases hfirst
    | ok u =>
      rw [interpret_of_ok htaken] at hfirst
      have hbehind : t.acceptAll E R ((scriptLines B source).map (.shift n)) =
          s'.acceptAll E R ((scriptLines B source).map (.shift n)) := by
        have ht' : (heading.shift n).token.isHeading = true := ht
        rw [hB]
        exact acceptAll_of_leave hfirst ht' _
      have hall : s.acceptAll E R (scriptLines (A ++ B) source) =
          s'.acceptAll E R ((scriptLines B source).map (.shift n)) := by
        rw [hlines, acceptAll_append, htaken, ← hbehind]
      rw [interpret_eq_acceptToEnd, hlength]
      unfold acceptToEnd
      rw [hall]

end Stage

/-! ## Two scripts in one -/

/-- The second side carries the calls and the events of a script that was run before. -/
structure Behind (n : Nat) (calls : List Call) (events : List Event) (x : Logged σ) (r : Recording)
    (y : Logged σ) (u : Recording) : Prop where
  state : y.state = x.state
  calls : y.calls = calls ++ x.calls
  events : u.events = events ++ r.events.map (.shift n)

theorem behind_simulation (E : Executor σ) (n : Nat) (calls : List Call) (events : List Event) :
    Simulation E.logged Recording.report E.logged Recording.report n
      (Behind n calls events) where
  setUp := by
    rintro x r ⟨state, more⟩ u ⟨rfl, rfl, hevents⟩
    exact ⟨_, rfl, rfl, List.append_assoc _ _ _, hevents⟩
  tearDown := by
    rintro x r ⟨state, more⟩ u ⟨rfl, rfl, hevents⟩
    exact ⟨_, rfl, rfl, List.append_assoc _ _ _, hevents⟩
  execute := by
    rintro x r ⟨state, more⟩ u line w text k - ⟨rfl, rfl, hevents⟩
    refine ⟨rfl, List.append_assoc _ _ _, ?_⟩
    simp [Recording.report, hevents, Event.shift, Executor.logged]
  other := by
    rintro x r y u e - ⟨hstate, hcalls, hevents⟩
    exact ⟨hstate, hcalls, by simp [Recording.report, hevents]⟩

/-- Headings isolate what stands before them. If a script that ends its last line runs well, and the
script behind it begins with a heading, then both in one make the calls of the first and those that
the second makes by itself on the state that the first leaves; they report what the first reports
and what the second reports, numbered on; they end in the state and with the outcome of the
second. -/
theorem headings_isolate (E : Executor σ) (x : σ) {A B source : String}
    (hA : A = "" ∨ A.toList.getLast? = some '\n')
    (hfirst : (interpret E Recording.report x {} A source).1 = .ok ())
    (hB : ∃ heading ∈ (scriptLines B source).head?, heading.token.isHeading = true) :
    let run y text := interpret E.logged Recording.report { state := y } {} text source
    let first := run x A
    let second := run first.2.executor.state B
    let both := run x (A ++ B)
    let n := (scriptLines A source).length
    (∀ y text, interpret E Recording.report y {} text source =
      ((run y text).1, (run y text).2.map Logged.state id)) ∧
    both.1 = second.1.mapError (.shift n) ∧
    both.2.executor.state = second.2.executor.state ∧
    both.2.executor.calls = first.2.executor.calls ++ second.2.executor.calls ∧
    both.2.reporter.events =
      first.2.reporter.events ++ second.2.reporter.events.map (.shift n) := by
  intro run first second both n
  have hlogged : ∀ y text, interpret E Recording.report y {} text source =
      ((run y text).1, (run y text).2.map Logged.state id) := fun y text =>
    interpret_logged E Recording.report { state := y } {} text source
  refine ⟨hlogged, ?_⟩
  rw [hlogged] at hfirst
  obtain ⟨heading, hhead, ht⟩ := hB
  obtain ⟨rest, hB⟩ := List.head?_eq_some_iff.mp hhead
  have hinterpret : Stage.interpret E.logged Recording.report
      { executor := { state := x }, reporter := {} } A source = (.ok (), first.2) :=
    Prod.ext hfirst rfl
  have hboth : both = first.2.acceptToEnd E.logged Recording.report
      ((scriptLines B source).map (.shift n)) source ((scriptLines B source).length + n) :=
    Stage.interpret_append hA hinterpret hB ht
  have hclosed := Stage.session_of_interpret hinterpret
  have hsimulation := behind_simulation E n first.2.executor.calls first.2.reporter.events
  let start : Stage (Logged σ) Recording :=
    { executor := { state := first.2.executor.state }, reporter := {} }
  have hbehind : Behind n first.2.executor.calls first.2.reporter.events start.executor
      start.reporter first.2.executor first.2.reporter :=
    ⟨rfl, (List.append_nil _).symm, (List.append_nil _).symm⟩
  have hlines := hsimulation.acceptAll_of_heading (s := start) hclosed.symm hbehind ht rest
  rw [← hB] at hlines
  have halike := hsimulation.acceptToEnd hlines source (scriptLines B source).length
  rw [← hboth] at halike
  exact ⟨halike.outcome, halike.states.state, halike.states.calls, halike.states.events⟩

/-- A heading behind a script that leaves a scenario open, with a keyword remembered in it. -/
theorem headings_isolate_open_scenario :
    let A := "Scenario: a\nGiven x\n"
    let B := "Feature: b\nWhen y\nAnd z"
    let run := fun y text =>
      interpret Executor.null.logged Recording.report { state := y } {} text "s"
    let n := (scriptLines A "s").length
    (interpret Executor.null Recording.report () {} A "s").1 = .ok () ∧
    (run () (A ++ B)).1 = (run (run () A).2.executor.state B).1.mapError (.shift n) ∧
    (run () (A ++ B)).2.executor.calls =
      (run () A).2.executor.calls ++ (run (run () A).2.executor.state B).2.executor.calls := by
  have hA : "Scenario: a\nGiven x\n".toList.getLast? = some '\n' := by decide
  have hfirst : (interpret Executor.null Recording.report () {} "Scenario: a\nGiven x\n" "s").1 =
      .ok () := rfl
  have hB : ∃ heading ∈ (scriptLines "Feature: b\nWhen y\nAnd z" "s").head?,
      heading.token.isHeading = true := ⟨⟨"Feature: b", 1, "s"⟩, rfl, rfl⟩
  obtain ⟨-, houtcome, -, hcalls, -⟩ :=
    headings_isolate Executor.null () (.inr hA) hfirst hB
  exact ⟨hfirst, houtcome, hcalls⟩

end FeatureScript
