import FeatureScript.Proofs.Step.Dispatch
import Mathlib.Data.List.Forall2

/-!
# FeatureScript.Proofs.Step.Registration

Registering definitions one after the other.

`Registry.attemptAll` makes calls on a registry and goes on after those that are refused. A call is
refused or adds one definition (`Registry.attempt_cases`), so a run of calls adds the definitions of
the accepted ones (`Registry.attemptAll_adds`). `registration_is_atomic`: the rules for the answers,
the definitions that come of them, and that no conjunction is ever among their keywords.
-/

namespace FeatureScript

variable {W : Type}

/-- A call that registers a definition. -/
structure Registration (W : Type) where
  keyword : Keyword
  pattern : String
  handler : Handler W

namespace Registration

/-- The answer to a call, rule by rule. A conjunction is refused whatever the pattern is. -/
inductive Answered (c : Registration W) : Except RegistryError Unit → Prop where
  | conjunction : c.keyword = .and ∨ c.keyword = .but →
      Answered c (.error (.conjunction c.keyword c.pattern))
  | invalid {e : PatternError} : c.keyword ≠ .and → c.keyword ≠ .but →
      StepPattern.compile c.pattern = .error e → Answered c (.error (.invalid e))
  | accepted {p : StepPattern} : c.keyword ≠ .and → c.keyword ≠ .but →
      StepPattern.compile c.pattern = .ok p → Answered c (.ok ())

/-- The definition is the one that the call asks for. -/
structure Defines (c : Registration W) (d : Definition W) : Prop where
  keyword : d.keyword = c.keyword
  source : d.pattern.source = c.pattern
  compiled : StepPattern.compile c.pattern = .ok d.pattern
  handler : d.handler = c.handler

/-- The calls that were answered without an error, in their order. -/
def accepted (calls : List (Registration W)) (answers : List (Except RegistryError Unit)) :
    List (Registration W) :=
  ((calls.zip answers).filter fun p => p.2.isOk).map Prod.fst

end Registration

theorem Keyword.isConjunction_iff (k : Keyword) : k.isConjunction = true ↔ k = .and ∨ k = .but := by
  cases k <;> decide

namespace Registry

open Registration

/-- Makes a call and tells its answer. -/
def attempt (r : Registry W) (c : Registration W) : Except RegistryError Unit × Registry W :=
  match r.register c.keyword c.pattern c.handler with
  | .ok r => (.ok (), r)
  | .error e => (.error e, r)

/-- Makes calls one after the other, whatever their answers are. -/
def attemptAll (r : Registry W) :
    List (Registration W) → List (Except RegistryError Unit) × Registry W
  | [] => ([], r)
  | c :: rest =>
    let later := (r.attempt c).2.attemptAll rest
    ((r.attempt c).1 :: later.1, later.2)

/-- What a call comes to: it is refused, and nothing changes, or its definition is added. -/
theorem attempt_cases (r : Registry W) (c : Registration W) :
    (∃ e, c.Answered (.error e) ∧ r.attempt c = (.error e, r)) ∨
      ∃ d, c.Answered (.ok ()) ∧ c.Defines d ∧ d.keyword.isConjunction = false ∧
        r.attempt c = (.ok (), ⟨r.definitions ++ [d]⟩) := by
  have hprimary : c.keyword.isConjunction = false → c.keyword ≠ .and ∧ c.keyword ≠ .but := by
    intro h
    rw [← not_or, ← Keyword.isConjunction_iff, h]
    exact Bool.false_ne_true
  rw [attempt]
  rcases r.register_cases c.keyword c.pattern c.handler with ⟨hconjunction, hregister⟩ |
    ⟨hconjunction, e, hcompile, hregister⟩ | ⟨hconjunction, p, hcompile, hregister⟩ <;>
    rw [hregister]
  · exact .inl ⟨_, .conjunction ((Keyword.isConjunction_iff _).mp hconjunction), rfl⟩
  · obtain ⟨hand, hbut⟩ := hprimary hconjunction
    exact .inl ⟨_, .invalid hand hbut hcompile, rfl⟩
  · obtain ⟨hand, hbut⟩ := hprimary hconjunction
    obtain ⟨e, -, rfl⟩ := StepPattern.compile_eq_ok hcompile
    exact .inr ⟨⟨c.keyword, ⟨c.pattern, e.regex⟩, c.handler⟩, .accepted hand hbut hcompile,
      ⟨rfl, rfl, hcompile, rfl⟩, hconjunction, rfl⟩

end Registry

/-- The rules leave no choice. -/
theorem Registration.Answered.unique {c : Registration W} {a b : Except RegistryError Unit}
    (ha : c.Answered a) (hb : c.Answered b) : a = b := by
  cases ha with
  | conjunction h =>
    cases hb with
    | conjunction => rfl
    | invalid hand hbut | accepted hand hbut => exact absurd h (not_or.mpr ⟨hand, hbut⟩)
  | invalid hand hbut h =>
    cases hb with
    | conjunction h' => exact absurd h' (not_or.mpr ⟨hand, hbut⟩)
    | invalid _ _ h' => cases h.symm.trans h'; rfl
    | accepted _ _ h' => cases h.symm.trans h'
  | accepted hand hbut h =>
    cases hb with
    | conjunction h' => exact absurd h' (not_or.mpr ⟨hand, hbut⟩)
    | invalid _ _ h' => cases h.symm.trans h'
    | accepted => rfl

namespace Registry

open Registration

theorem attempt_answered (r : Registry W) (c : Registration W) (a : Except RegistryError Unit) :
    c.Answered a ↔ a = (r.attempt c).1 := by
  have hanswered : c.Answered (r.attempt c).1 := by
    rcases r.attempt_cases c with ⟨e, h, hattempt⟩ | ⟨d, h, -, -, hattempt⟩ <;>
      rwa [hattempt]
  exact ⟨fun h => h.unique hanswered, fun h => h ▸ hanswered⟩

theorem attemptAll_append (r : Registry W) (before after : List (Registration W)) :
    r.attemptAll (before ++ after) =
      ((r.attemptAll before).1 ++ ((r.attemptAll before).2.attemptAll after).1,
        ((r.attemptAll before).2.attemptAll after).2) := by
  induction before generalizing r with
  | nil => rfl
  | cons c rest ih => rw [List.cons_append, attemptAll, ih]; rfl

/-- Every call gets the answer that the rules give. -/
theorem attemptAll_answered (r : Registry W) (calls : List (Registration W)) :
    List.Forall₂ (fun c answer => ∀ a, c.Answered a ↔ a = answer) calls (r.attemptAll calls).1 := by
  induction calls generalizing r with
  | nil => exact .nil
  | cons c rest ih => exact .cons (r.attempt_answered c) (ih _)

/-- The definitions of the accepted calls are added, in the order of the calls. -/
theorem attemptAll_adds (r : Registry W) (calls : List (Registration W)) :
    ∃ added, (r.attemptAll calls).2 = ⟨r.definitions ++ added⟩ ∧
      List.Forall₂ Defines (accepted calls (r.attemptAll calls).1) added ∧
      ∀ d ∈ added, d.keyword.isConjunction = false := by
  induction calls generalizing r with
  | nil => exact ⟨[], by rw [List.append_nil]; rfl, .nil, nofun⟩
  | cons c rest ih =>
    rw [attemptAll]
    rcases r.attempt_cases c with ⟨e, -, hattempt⟩ | ⟨d, -, hdefines, hprimary, hattempt⟩
    · rw [hattempt]
      exact ih r
    · obtain ⟨added, hadded, hall, hprimaries⟩ := ih ⟨r.definitions ++ [d]⟩
      rw [hattempt]
      refine ⟨d :: added, ?_, .cons hdefines hall, List.forall_mem_cons.mpr ⟨hprimary, hprimaries⟩⟩
      rw [hadded, List.append_assoc, List.singleton_append]

/-- A refused call leaves the registry that the calls before it left. -/
theorem attemptAll_of_refused {r : Registry W} {before after : List (Registration W)}
    {c : Registration W} {e : RegistryError}
    (h : (r.attemptAll (before ++ c :: after)).1[before.length]? = some (.error e)) :
    (r.attemptAll (before ++ [c])).2 = (r.attemptAll before).2 := by
  have hlength := (r.attemptAll_answered before).length_eq
  rw [attemptAll_append, hlength, List.getElem?_append_right (Nat.le_refl _), Nat.sub_self] at h
  have hrefused : ((r.attemptAll before).2.attempt c).1 = .error e := Option.some.inj h
  rw [attemptAll_append]
  rcases (r.attemptAll before).2.attempt_cases c with ⟨e', -, hattempt⟩ | ⟨d, -, -, -, hattempt⟩
  · show ((r.attemptAll before).2.attempt c).2 = _
    rw [hattempt]
  · rw [hattempt] at hrefused
    cases hrefused

end Registry

/-- What comes of any calls on a new registry. Each is answered by the rules. The definitions are
those of the accepted calls, in their order, and a refused call changes nothing. No definition is
under a conjunction, so a step that is dispatched under one is missing, and no handler is run. -/
theorem registration_is_atomic (calls : List (Registration W)) :
    let answers := (Registry.empty.attemptAll calls).1
    let registry := (Registry.empty.attemptAll calls).2
    List.Forall₂ (fun c answer => ∀ a, c.Answered a ↔ a = answer) calls answers ∧
    List.Forall₂ Registration.Defines (Registration.accepted calls answers) registry.definitions ∧
    (∀ before c after e, calls = before ++ c :: after →
      answers[before.length]? = some (.error e) →
      (Registry.empty.attemptAll (before ++ [c])).2 = (Registry.empty.attemptAll before).2) ∧
    (∀ d ∈ registry.definitions, d.keyword = .given ∨ d.keyword = .when ∨ d.keyword = .then) ∧
    ∀ (k : Keyword) (text : String) (world : W) (runs : List HandlerRun), k = .and ∨ k = .but →
      dispatch registry world k text = (.missing k, world) ∧
      dispatch registry.traced (world, runs) k text = (.missing k, (world, runs)) := by
  intro answers registry
  obtain ⟨added, hadded, hall, hprimary⟩ := Registry.empty.attemptAll_adds calls
  have hdefinitions : registry.definitions = added := congrArg Registry.definitions hadded
  refine ⟨Registry.empty.attemptAll_answered calls, hdefinitions ▸ hall, ?_, ?_, ?_⟩
  · rintro before c after e rfl hrefused
    exact Registry.attemptAll_of_refused hrefused
  · intro d hd
    have hkeyword := hprimary d (hdefinitions ▸ hd)
    cases hk : d.keyword <;> simp_all [Keyword.isConjunction]
  · intro k text world runs hk
    have hlacks : Registry.Lacks registry.definitions k text := by
      rintro d hd captures ⟨rfl, -⟩
      have hkeyword := hprimary d (hdefinitions ▸ hd)
      rw [(Keyword.isConjunction_iff _).mpr hk] at hkeyword
      cases hkeyword
    exact ⟨dispatch_of_lacks world hlacks, dispatch_of_lacks (world, runs) hlacks.traced⟩

end FeatureScript
