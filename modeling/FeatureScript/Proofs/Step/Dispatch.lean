import FeatureScript.Proofs.Step.Resolve
import FeatureScript.Step.Dispatch

/-!
# FeatureScript.Proofs.Step.Dispatch

What becomes of one step.

* `StepContext.performAll_eq`: after a list of effects, a context holds what was written, how many
  checks passed, and the messages of the failed ones.
* `Classified` lists the rules for the result of a performance. `classified_iff` says that they
  decide it: one rule applies, and it gives the result that dispatch gives.
* `Registry.traced` is a registry whose worlds keep a list of the handlers that were run.
  `dispatch_classifies` uses it to say that a step runs the first handler that takes it, once, and
  no other.
-/

namespace FeatureScript

variable {W : Type}

/-! ## Effects -/

namespace Effect

def message? : Effect → Option String
  | .fail message => some message
  | _ => none

def text? : Effect → Option String
  | .write text => some text
  | _ => none

/-- The messages of the failed checks, in order. -/
def failures (effects : List Effect) : List String := effects.filterMap message?

/-- All that is written. -/
def written (effects : List Effect) : String := String.join (effects.filterMap text?)

theorem failures_cons (e : Effect) (rest : List Effect) :
    failures (e :: rest) = e.message?.toList ++ failures rest := by
  cases e <;> rfl

theorem written_cons (e : Effect) (rest : List Effect) :
    written (e :: rest) = e.text?.getD "" ++ written rest := by
  cases e with
  | pass | fail message => exact String.empty_append.symm
  | write text => exact String.join_cons

end Effect

theorem StepContext.performAll_eq (c : StepContext) (effects : List Effect) :
    c.performAll effects =
      { captures := c.captures
        asserter :=
          { passes := c.asserter.passes + effects.count .pass
            failures := c.asserter.failures ++ Effect.failures effects }
        output := c.output ++ Effect.written effects } := by
  induction effects generalizing c with
  | nil => simp [performAll, Effect.failures, Effect.written]
  | cons e rest ih =>
    rw [performAll, List.foldl_cons, ← performAll, ih, Effect.failures_cons, Effect.written_cons]
    cases e with
    | pass =>
      simp [perform, Asserter.perform, Effect.message?, Effect.text?, Nat.add_comm,
        Nat.add_left_comm]
    | fail message => simp [perform, Asserter.perform, Effect.message?, Effect.text?]
    | write text => simp [perform, Effect.message?, Effect.text?, String.append_assoc]

/-! ## Results of performances -/

/-- The result of a performance, rule by rule. An error or a panic counts whatever was checked and
written before; a failed check counts whatever passed. -/
inductive Classified (k : Keyword) (effects : List Effect) : Ending → StepResult → Prop where
  | raised (e : StepError) : Classified k effects (.raised e) (.fail "" (.error e.message))
  | panicked (payload : Payload) :
      Classified k effects (.panicked payload)
        (.fail "" (.error ("step panicked: " ++ payload.message)))
  | failed : Effect.failures effects ≠ [] →
      Classified k effects .returned
        (.fail (Effect.written effects) (.assertions (Effect.failures effects)))
  | silent : Effect.failures effects = [] → k = .then → .pass ∉ effects →
      Classified k effects .returned (.noAssertions (Effect.written effects))
  | passed : Effect.failures effects = [] → (k = .then → .pass ∈ effects) →
      Classified k effects .returned (.pass (Effect.written effects))

theorem classifyReturned_performAll (k : Keyword) (captures : List String) (effects : List Effect) :
    classifyReturned k (StepContext.performAll { captures } effects) =
      if Effect.failures effects ≠ [] then
        .fail (Effect.written effects) (.assertions (Effect.failures effects))
      else if k = .then ∧ .pass ∉ effects then .noAssertions (Effect.written effects)
      else .pass (Effect.written effects) := by
  rw [StepContext.performAll_eq, classifyReturned]
  simp [List.count_eq_zero]

theorem classified_iff (k : Keyword) (captures : List String) (p : Performance W)
    (result : StepResult) :
    Classified k p.effects p.ending result ↔ classifyPerformance k captures p = result := by
  unfold classifyPerformance
  cases p.ending with
  | raised e =>
    constructor
    · rintro ⟨⟩; rfl
    · rintro rfl; exact .raised e
  | panicked payload =>
    constructor
    · rintro ⟨⟩; rfl
    · rintro rfl; exact .panicked payload
  | returned =>
    simp only [Ending.error?, classifyReturned_performAll]
    constructor
    · intro h
      cases h with
      | failed hfailures => rw [if_pos hfailures]
      | silent hfailures hk hpass => rw [if_neg (by simp [hfailures]), if_pos ⟨hk, hpass⟩]
      | passed hfailures hpass =>
        rw [if_neg (by simp [hfailures]), if_neg (fun h => h.2 (hpass h.1))]
    · rintro rfl
      split
      · rename_i hfailures
        exact .failed hfailures
      · rename_i hfailures
        have hnone : Effect.failures p.effects = [] := Decidable.not_not.mp hfailures
        split
        · rename_i hsilent
          exact .silent hnone hsilent.1 hsilent.2
        · rename_i hsilent
          exact .passed hnone fun hk => Decidable.byContradiction fun hpass => hsilent ⟨hk, hpass⟩

/-! ## Traces -/

/-- A handler that was run: the position of its definition, and the captures it was given. -/
structure HandlerRun where
  position : Nat
  captures : List String

/-- The definition, standing at a position, with a handler that records that it is run. -/
def Definition.traced (position : Nat) (d : Definition W) : Definition (W × List HandlerRun) where
  keyword := d.keyword
  pattern := d.pattern
  handler captures w :=
    let p := d.handler captures w.1
    { effects := p.effects, world := (p.world, w.2 ++ [⟨position, captures⟩]), ending := p.ending }

def Registry.traced (r : Registry W) : Registry (W × List HandlerRun) :=
  ⟨r.definitions.mapIdx Definition.traced⟩

section

variable {r : Registry W} {k : Keyword} {text : String} {n : Nat} {d : Definition W}
  {captures : List String}

theorem Registry.traced_getElem? (r : Registry W) (m : Nat) :
    r.traced.definitions[m]? = r.definitions[m]?.map (Definition.traced m) :=
  List.getElem?_mapIdx

theorem Registry.First.traced (h : First r.definitions k text n d captures) :
    First r.traced.definitions k text n (d.traced n) captures := by
  refine ⟨by rw [traced_getElem?, h.at_position]; rfl, h.takes, fun m hm d' hd' => ?_⟩
  rw [traced_getElem?] at hd'
  obtain ⟨d'', hd'', rfl⟩ := Option.map_eq_some_iff.mp hd'
  exact h.before m hm d'' hd''

theorem Registry.Lacks.traced (h : Lacks r.definitions k text) :
    Lacks r.traced.definitions k text := by
  intro d hd
  obtain ⟨m, hm⟩ := List.getElem?_of_mem hd
  rw [traced_getElem?] at hm
  obtain ⟨d', hd', rfl⟩ := Option.map_eq_some_iff.mp hm
  exact h d' (List.mem_of_getElem? hd')

/-! ## One step -/

theorem dispatch_of_lacks (world : W) (h : Registry.Lacks r.definitions k text) :
    dispatch r world k text = (.missing k, world) := by
  rw [dispatch, (r.resolve_eq_none_iff k text).mpr h]

theorem dispatch_of_first (world : W) (h : Registry.First r.definitions k text n d captures) :
    dispatch r world k text =
      (classifyPerformance k captures (d.handler captures world),
        (d.handler captures world).world) := by
  rw [dispatch, (r.resolve_eq_some_iff k text n d captures).mpr h]

theorem classifyPerformance_ne_missing (k k' : Keyword) (captures : List String)
    (p : Performance W) : classifyPerformance k captures p ≠ .missing k' := by
  intro h
  have hclassified := (classified_iff k captures p _).mpr h
  generalize p.ending = ending at hclassified
  cases hclassified

theorem dispatch_missing {world : W} {k' : Keyword}
    (h : (dispatch r world k text).1 = .missing k') : k' = k := by
  unfold dispatch at h
  split at h
  · cases h
    rfl
  · exact absurd h (classifyPerformance_ne_missing k k' _ _)

/-- No handler reports its step as missing, so nothing takes a step that is. -/
theorem lacks_of_missing {world : W} {k' : Keyword}
    (h : (dispatch r world k text).1 = .missing k') : Registry.Lacks r.definitions k text := by
  rcases Registry.lacks_or_first r.definitions k text with hlacks | ⟨n, d, captures, hfirst⟩
  · exact hlacks
  · rw [dispatch_of_first world hfirst] at h
    exact absurd h (classifyPerformance_ne_missing _ _ _ _)

/-- Only a `Then` is without assertions. -/
theorem dispatch_noAssertions {world : W} {output : String}
    (h : (dispatch r world k text).1 = .noAssertions output) : k = .then := by
  unfold dispatch at h
  split at h
  · cases h
  · rename_i resolved _
    have hclassified := (classified_iff k resolved.captures _ _).mpr h
    generalize (resolved.definition.handler resolved.captures world).ending = ending at hclassified
    cases hclassified with
    | silent _ hk _ => exact hk

end

/-- What becomes of a step. It is missing exactly if no definition under its very keyword matches,
and then no handler is run and the world stays. Otherwise the first definition that takes it has its
handler run, once, with the captures of the match; the world is the one the handler leaves, however
it ends, and the result is the one the rules give. -/
theorem dispatch_classifies (r : Registry W) (world : W) (runs : List HandlerRun) (k : Keyword)
    (text : String) :
    let traced := dispatch r.traced (world, runs) k text
    dispatch r world k text = (traced.1, traced.2.1) ∧
    ((dispatch r world k text).1 = .missing k ↔ Registry.Lacks r.definitions k text) ∧
    (∀ k', (dispatch r world k text).1 = .missing k' → k' = k) ∧
    (Registry.Lacks r.definitions k text → traced.2 = (world, runs)) ∧
    (¬ Registry.Lacks r.definitions k text →
      ∃ n d captures, Registry.First r.definitions k text n d captures ∧
        traced.2 = ((d.handler captures world).world, runs ++ [⟨n, captures⟩]) ∧
        ∀ result, Classified k (d.handler captures world).effects (d.handler captures world).ending
          result ↔ (dispatch r world k text).1 = result) := by
  intro traced
  rcases Registry.resolveFrom_spec r.definitions k text 0 with
    ⟨-, hlacks⟩ | ⟨n, d, captures, hfirst, -⟩
  · have hdispatch := dispatch_of_lacks world hlacks
    have htraced : traced = (.missing k, (world, runs)) :=
      dispatch_of_lacks (world, runs) hlacks.traced
    rw [hdispatch, htraced]
    exact ⟨rfl, ⟨fun _ => hlacks, fun _ => rfl⟩, fun k' h => (by cases h; rfl), fun _ => rfl,
      fun h => absurd hlacks h⟩
  · have hdispatch := dispatch_of_first world hfirst
    have htraced : traced = _ := dispatch_of_first (world, runs) hfirst.traced
    have hresult : (dispatch r world k text).1 ≠ .missing k := by
      rw [hdispatch]
      exact classifyPerformance_ne_missing k k captures _
    refine ⟨by rw [hdispatch, htraced]; rfl,
      ⟨fun h => absurd h hresult, fun h => absurd h hfirst.not_lacks⟩, fun k' => dispatch_missing,
      fun h => absurd h hfirst.not_lacks, fun _ => ⟨n, d, captures, hfirst, ?_, fun result => ?_⟩⟩
    · rw [htraced]
      rfl
    · rw [hdispatch]
      exact classified_iff k captures (d.handler captures world) result

end FeatureScript
