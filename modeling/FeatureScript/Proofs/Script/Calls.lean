import FeatureScript.Proofs.Script.Plan
import FeatureScript.Proofs.Script.Projection

/-!
# FeatureScript.Proofs.Script.Calls

The calls a run makes on its executor.

* `Executor.logged` is an executor that keeps every call with its answer, and answers as before
  (`interpret_logged`).
* `Executor.Serves`: an executor answers some calls in order, from one state to another.
* `Answers acts calls outcome`: the calls take the acts in order, up to a hook that fails or to a
  step that continues nothing, and the outcome says which.
-/

namespace FeatureScript

variable {σ ρ : Type}

inductive Call where
  | setUp (answer : Except HookError Unit)
  | tearDown (answer : Except HookError Unit)
  | execute (keyword : Keyword) (text : String) (result : StepResult)

namespace Call

def act : Call → Act
  | .setUp _ => .setUp
  | .tearDown _ => .tearDown
  | .execute k text _ => .execute (some k) text

/-- What stops a run at a call: a hook that fails. -/
def error? : Call → Option LifecycleError
  | .setUp (.error e) => some (.setUp e)
  | .tearDown (.error e) => some (.tearDown e)
  | _ => none

theorem eq_execute_of_act {c : Call} {k : Option Keyword} {text : String}
    (h : c.act = .execute k text) : ∃ k' result, k = some k' ∧ c = .execute k' text result := by
  cases c with
  | setUp answer => cases h
  | tearDown answer => cases h
  | execute k' text' result => cases h; exact ⟨k', result, rfl, rfl⟩

end Call

/-- The state of an executor with the calls taken so far. -/
structure Logged (σ : Type) where
  state : σ
  calls : List Call := []

def Logged.add (x : Logged σ) (state : σ) (c : Call) : Logged σ :=
  { state, calls := x.calls ++ [c] }

def Executor.logged (E : Executor σ) : Executor (Logged σ) where
  setUp x := ((E.setUp x.state).1, x.add (E.setUp x.state).2 (.setUp (E.setUp x.state).1))
  tearDown x :=
    ((E.tearDown x.state).1, x.add (E.tearDown x.state).2 (.tearDown (E.tearDown x.state).1))
  execute x k text :=
    ((E.execute x.state k text).1,
      x.add (E.execute x.state k text).2 (.execute k text (E.execute x.state k text).1))

theorem Executor.logged_projects (E : Executor σ) : E.logged.Projects E Logged.state :=
  ⟨fun _ => rfl, fun _ => rfl, fun _ _ _ => rfl⟩

/-- Keeping the calls changes neither the outcome of a run nor the states it leaves. -/
theorem interpret_logged (E : Executor σ) (R : Reporter ρ) (x : Logged σ) (r : ρ)
    (text source : String) :
    interpret E R x.state r text source =
      ((interpret E.logged R x r text source).1,
        (interpret E.logged R x r text source).2.map Logged.state id) :=
  interpret_map E.logged_projects (.refl R) x r text source

/-! ## Serving calls -/

/-- From the state `x`, the executor answers the calls in order and comes to the state `y`. -/
inductive Executor.Serves (E : Executor σ) : σ → List Call → σ → Prop where
  | done {x : σ} : E.Serves x [] x
  | setUp {x y : σ} {calls : List Call} : E.Serves (E.setUp x).2 calls y →
      E.Serves x (.setUp (E.setUp x).1 :: calls) y
  | tearDown {x y : σ} {calls : List Call} : E.Serves (E.tearDown x).2 calls y →
      E.Serves x (.tearDown (E.tearDown x).1 :: calls) y
  | execute {x y : σ} {k : Keyword} {text : String} {calls : List Call} :
      E.Serves (E.execute x k text).2 calls y →
      E.Serves x (.execute k text (E.execute x k text).1 :: calls) y

namespace Executor.Serves

variable {E : Executor σ} {x y z : σ} {calls calls' : List Call}

theorem append (h : E.Serves x calls y) (h' : E.Serves y calls' z) :
    E.Serves x (calls ++ calls') z := by
  induction h with
  | done => exact h'
  | setUp _ ih => exact .setUp (ih h')
  | tearDown _ ih => exact .tearDown (ih h')
  | execute _ ih => exact .execute (ih h')

theorem result_eq (h : E.Serves x calls y) {k : Keyword} {text : String} {result : StepResult}
    (hmem : .execute k text result ∈ calls) : ∃ w, (E.execute w k text).1 = result := by
  induction h with
  | done => cases hmem
  | setUp _ ih | tearDown _ ih =>
    rcases List.mem_cons.mp hmem with heq | hmem
    · cases heq
    · exact ih hmem
  | @execute w _ k' text' _ _ ih =>
    rcases List.mem_cons.mp hmem with heq | hmem
    · cases heq; exact ⟨w, rfl⟩
    · exact ih hmem

end Executor.Serves

/-- The executor serves the calls, and they are added to its log. -/
structure Logged.Adds (E : Executor σ) (x : Logged σ) (calls : List Call) (x' : Logged σ) :
    Prop where
  log : x'.calls = x.calls ++ calls
  served : E.Serves x.state calls x'.state

namespace Logged.Adds

variable {E : Executor σ} {x x' x'' : Logged σ} {calls calls' : List Call}

theorem refl (x : Logged σ) : x.Adds E [] x := ⟨by simp, .done⟩

theorem trans (h : x.Adds E calls x') (h' : x'.Adds E calls' x'') :
    x.Adds E (calls ++ calls') x'' :=
  ⟨by rw [h'.log, h.log, List.append_assoc], h.served.append h'.served⟩

theorem setUp {answer : Except HookError Unit} {y : σ} (h : E.setUp x.state = (answer, y)) :
    x.Adds E [.setUp answer] (x.add y (.setUp answer)) := by
  refine ⟨rfl, ?_⟩
  have hs : E.Serves x.state [.setUp (E.setUp x.state).1] (E.setUp x.state).2 := .setUp .done
  rwa [h] at hs

theorem tearDown {answer : Except HookError Unit} {y : σ} (h : E.tearDown x.state = (answer, y)) :
    x.Adds E [.tearDown answer] (x.add y (.tearDown answer)) := by
  refine ⟨rfl, ?_⟩
  have hs : E.Serves x.state [.tearDown (E.tearDown x.state).1] (E.tearDown x.state).2 :=
    .tearDown .done
  rwa [h] at hs

theorem execute (k : Keyword) (text : String) :
    x.Adds E [.execute k text (E.execute x.state k text).1] (E.logged.execute x k text).2 :=
  ⟨rfl, .execute .done⟩

end Logged.Adds

/-! ## Acts and their calls -/

inductive Answers : List Act → List Call → Except InterpretError Unit → Prop where
  | done : Answers [] [] (.ok ())
  | call {c : Call} {acts : List Act} {calls : List Call} {outcome : Except InterpretError Unit} :
      c.error? = none → Answers acts calls outcome → Answers (c.act :: acts) (c :: calls) outcome
  | failed {c : Call} {cause : LifecycleError} {source : String} {number : Nat} {acts : List Act} :
      c.error? = some cause →
      Answers (c.act :: acts) [c] (.error (.lifecycle source number cause))
  | dangling {keyword : Keyword} {line : Line} {text : String} {acts : List Act} :
      line.token = .step keyword text →
      Answers (.execute none text :: acts) [] (.error (.danglingConjunction keyword line))

/-- What an outcome says of the calls made for some acts: all of them are answered well; or a hook
fails at the last call; or the next act is a step that continues nothing. -/
def Accounted (acts : List Act) (calls : List Call) : Except InterpretError Unit → Prop
  | .ok () => calls.map Call.act = acts ∧ ∀ c ∈ calls, c.error? = none
  | .error (.lifecycle _ _ cause) => ∃ before last rest, calls = before ++ [last] ∧
      last.error? = some cause ∧ (∀ c ∈ before, c.error? = none) ∧
      acts = calls.map Call.act ++ rest
  | .error (.danglingConjunction keyword line) => (∀ c ∈ calls, c.error? = none) ∧
      ∃ text rest, line.token = .step keyword text ∧
        acts = calls.map Call.act ++ .execute none text :: rest

namespace Answers

variable {acts acts' : List Act} {calls calls' : List Call} {outcome : Except InterpretError Unit}

theorem answered (c : Call) (h : c.error? = none) : Answers [c.act] [c] (.ok ()) := .call h .done

theorem refused (c : Call) {cause : LifecycleError} (h : c.error? = some cause) {source : String}
    {number : Nat} : Answers [c.act] [c] (.error (.lifecycle source number cause)) := .failed h

theorem append (h : Answers acts calls (.ok ())) (h' : Answers acts' calls' outcome) :
    Answers (acts ++ acts') (calls ++ calls') outcome := by
  generalize ho : (Except.ok () : Except InterpretError Unit) = ok at h
  induction h with
  | done => exact h'
  | call hc _ ih => exact .call hc (ih ho)
  | failed _ => cases ho
  | dangling _ => cases ho

theorem append_of_error {e : InterpretError} (h : Answers acts calls (.error e))
    (more : List Act) : Answers (acts ++ more) calls (.error e) := by
  generalize ho : (Except.error e : Except InterpretError Unit) = failed at h ⊢
  induction h with
  | done => cases ho
  | call hc _ ih => exact .call hc (ih ho)
  | failed hc => exact .failed hc
  | dangling htoken => exact .dangling htoken

theorem mem_acts (h : Answers acts calls outcome) {c : Call} (hc : c ∈ calls) : c.act ∈ acts := by
  induction h with
  | done => cases hc
  | call _ _ ih =>
    rcases List.mem_cons.mp hc with rfl | hc
    · exact List.mem_cons_self
    · exact List.mem_cons_of_mem _ (ih hc)
  | failed _ =>
    rw [List.mem_singleton.mp hc]
    exact List.mem_cons_self
  | dangling _ => cases hc

theorem account (h : Answers acts calls outcome) : Accounted acts calls outcome := by
  induction h with
  | done => exact ⟨rfl, by simp⟩
  | @call c acts calls outcome hc _ ih =>
    cases outcome with
    | ok u =>
      obtain ⟨hacts, hcalls⟩ := ih
      exact ⟨by rw [List.map_cons, hacts], by simpa [hc] using hcalls⟩
    | error e =>
      cases e with
      | lifecycle source number cause =>
        obtain ⟨before, last, rest, hcalls, hlast, hbefore, hacts⟩ := ih
        exact ⟨c :: before, last, rest, by rw [hcalls]; rfl, hlast, by simpa [hc] using hbefore,
          by rw [hacts]; rfl⟩
      | danglingConjunction keyword line =>
        obtain ⟨hcalls, text, rest, htoken, hacts⟩ := ih
        exact ⟨by simpa [hc] using hcalls, text, rest, htoken, by rw [hacts]; rfl⟩
  | @failed c _ _ _ acts hc => exact ⟨[], c, acts, rfl, hc, by simp, rfl⟩
  | @dangling _ _ text acts htoken => exact ⟨by simp, text, acts, htoken, rfl⟩

/-- A single step is executed once if it has a keyword, and stops the run if it has none. -/
theorem of_execute {keyword : Option Keyword} {text : String}
    (h : Answers [.execute keyword text] calls outcome) :
    (∃ k result, keyword = some k ∧ calls = [.execute k text result] ∧ outcome = .ok ()) ∨
      (keyword = none ∧ calls = [] ∧
        ∃ k line, line.token = .step k text ∧ outcome = .error (.danglingConjunction k line)) := by
  have haccount := h.account
  cases outcome with
  | ok u =>
    obtain ⟨c, rfl, hact⟩ := List.map_eq_singleton_iff.mp haccount.1
    obtain ⟨k, result, hk, rfl⟩ := Call.eq_execute_of_act hact
    exact .inl ⟨k, result, hk, rfl, rfl⟩
  | error e =>
    cases e with
    | lifecycle source number cause =>
      obtain ⟨before, last, rest, rfl, hlast, -, -⟩ := haccount
      have hact := h.mem_acts (List.mem_append_right before List.mem_cons_self)
      obtain ⟨k, result, -, rfl⟩ := Call.eq_execute_of_act (List.mem_singleton.mp hact)
      cases hlast
    | danglingConjunction k line =>
      obtain ⟨-, text', rest, htoken, hacts⟩ := haccount
      cases calls with
      | nil => cases hacts; exact .inr ⟨rfl, rfl, k, line, htoken, rfl⟩
      | cons c calls => simp at hacts

end Answers
end FeatureScript
