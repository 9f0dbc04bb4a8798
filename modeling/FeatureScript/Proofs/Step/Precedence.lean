import FeatureScript.Proofs.Step.Resolve

/-!
# FeatureScript.Proofs.Step.Precedence

What a definition more changes.

A step is resolved among the definitions under its keyword, in their order (`Registry.choice_eq`):
the definitions under other keywords might as well not be there. A definition in front of others
takes the steps that it matches, and leaves the others to them one place further back
(`Registry.resolve_cons`). `resolve_takes_first`: the first definition that takes a step is the one
that it is resolved to, and this is stable under definitions added behind, under changes among the
definitions under other keywords, and, as far as a definition in front does not match, under that
one too.
-/

namespace FeatureScript

variable {W : Type}

/-- The same definition, with one more standing in front. -/
def Resolved.pushed (found : Resolved W) : Resolved W :=
  { found with position := found.position + 1 }

/-- The definition with its captures, if it matches the text. -/
def Definition.match? (d : Definition W) (text : String) : Option (Definition W × List String) :=
  (d.pattern.captures text).map fun captures => (d, captures)

namespace Registry

/-- The definition that a step is resolved to and its captures, wherever it stands. -/
def choice (r : Registry W) (k : Keyword) (text : String) : Option (Definition W × List String) :=
  (r.resolve k text).map fun found => (found.definition, found.captures)

section

variable {k : Keyword} {text : String} {d : Definition W} {captures : List String}

/-- The definitions under a keyword, in order. -/
def under (r : Registry W) (k : Keyword) : List (Definition W) :=
  r.definitions.filter fun d => d.keyword = k

theorem map_resolveFrom (definitions : List (Definition W)) (k : Keyword) (text : String)
    (position : Nat) :
    (resolveFrom k text position definitions).map
        (fun found => (found.definition, found.captures)) =
      (definitions.filter fun d => d.keyword = k).findSome? (Definition.match? · text) := by
  induction definitions generalizing position with
  | nil => rfl
  | cons d rest ih =>
    rw [resolveFrom]
    split
    · rename_i hk
      rw [List.filter_cons_of_pos (by simpa using hk), List.findSome?_cons, Definition.match?]
      cases d.pattern.captures text with
      | none => exact ih (position + 1)
      | some captures => rfl
    · rename_i hk
      rw [List.filter_cons_of_neg (by simpa using hk)]
      exact ih (position + 1)

/-- A step is resolved among the definitions under its keyword. -/
theorem choice_eq (r : Registry W) (k : Keyword) (text : String) :
    r.choice k text = (r.under k).findSome? (Definition.match? · text) :=
  map_resolveFrom r.definitions k text 0

theorem resolveFrom_succ (definitions : List (Definition W)) (k : Keyword) (text : String)
    (position : Nat) :
    resolveFrom k text (position + 1) definitions =
      (resolveFrom k text position definitions).map Resolved.pushed := by
  induction definitions generalizing position with
  | nil => rfl
  | cons d rest ih =>
    rw [resolveFrom, resolveFrom]
    split
    · cases d.pattern.captures text with
      | none => exact ih (position + 1)
      | some captures => rfl
    · exact ih (position + 1)

/-- A definition in front takes the steps under its keyword that it matches, and leaves the others
to the definitions behind it. -/
theorem resolve_cons (r : Registry W) (hk : d.keyword = k) (text : String) :
    Registry.resolve ⟨d :: r.definitions⟩ k text =
      match d.pattern.captures text with
      | some captures => some ⟨0, d, captures⟩
      | none => (r.resolve k text).map Resolved.pushed := by
  rw [resolve, resolveFrom, if_pos hk]
  cases d.pattern.captures text with
  | some captures => rfl
  | none => exact resolveFrom_succ r.definitions k text 0

/-- What stood anywhere behind a definition does not stand in front. -/
theorem map_pushed_ne (found : Option (Resolved W)) :
    found.map Resolved.pushed ≠ some ⟨0, d, captures⟩ := by
  intro h
  obtain ⟨found', -, hpushed⟩ := Option.map_eq_some_iff.mp h
  cases congrArg Resolved.position hpushed

theorem resolve_cons_eq_pushed_iff (r : Registry W) (hk : d.keyword = k) (text : String) :
    Registry.resolve ⟨d :: r.definitions⟩ k text = (r.resolve k text).map Resolved.pushed ↔
      d.pattern.captures text = none := by
  rw [resolve_cons r hk]
  cases d.pattern.captures text with
  | none => simp
  | some captures => simpa using (map_pushed_ne (r.resolve k text)).symm

theorem resolve_append {found : Resolved W} (r : Registry W) (h : r.resolve k text = some found)
    (more : List (Definition W)) :
    Registry.resolve ⟨r.definitions ++ more⟩ k text = some found := by
  have hfirst := (r.resolve_eq_some_iff k text _ _ _).mp h
  exact (resolve_eq_some_iff ⟨r.definitions ++ more⟩ k text _ _ _).mpr (hfirst.append more)

/-- Definitions are registered behind those that are there. -/
theorem definitions_prefix_of_registerAll {r r' : Registry W}
    {more : List (Keyword × String × Handler W)} (h : r.registerAll more = .ok r') :
    r.definitions <+: r'.definitions := by
  induction more generalizing r with
  | nil => cases h; exact List.prefix_rfl
  | cons m rest ih =>
    obtain ⟨keyword, pattern, handler⟩ := m
    rw [registerAll] at h
    cases hone : r.register keyword pattern handler with
    | error e => rw [hone] at h; cases h
    | ok r₁ =>
      rw [hone] at h
      refine List.IsPrefix.trans ?_ (ih h)
      rcases r.register_cases keyword pattern handler with ⟨-, hcase⟩ | ⟨-, _, -, hcase⟩ |
        ⟨-, _, -, hcase⟩
      · cases hone.symm.trans hcase
      · cases hone.symm.trans hcase
      · cases hone.symm.trans hcase
        exact List.prefix_append _ _

end
end Registry

/-- A step is resolved to the first of the definitions under its keyword that match, with the
captures of the match, and to nothing exactly if none matches. Definitions that are added or
registered behind change nothing for a step that is resolved. Definitions under other keywords do
not matter, wherever they are put or left out. A definition under the keyword in front of all others
takes the steps that it matches; exactly the others are resolved as before. -/
theorem resolve_takes_first (r : Registry W) (k : Keyword) (text : String) :
    (∀ n d captures, r.resolve k text = some ⟨n, d, captures⟩ ↔
      Registry.First r.definitions k text n d captures) ∧
    (r.resolve k text = none ↔ Registry.Lacks r.definitions k text) ∧
    (∀ found, r.resolve k text = some found →
      (∀ more, Registry.resolve ⟨r.definitions ++ more⟩ k text = some found) ∧
      ∀ more r', r.registerAll more = .ok r' → r'.resolve k text = some found) ∧
    (∀ r' : Registry W, r'.under k = r.under k → r'.choice k text = r.choice k text) ∧
    (∀ front others back, r.definitions = front ++ back → (∀ d ∈ others, d.keyword ≠ k) →
      Registry.choice ⟨front ++ others ++ back⟩ k text = r.choice k text) ∧
    ∀ d : Definition W, d.keyword = k →
      (∀ captures, d.pattern.captures text = some captures →
        Registry.resolve ⟨d :: r.definitions⟩ k text = some ⟨0, d, captures⟩) ∧
      (Registry.resolve ⟨d :: r.definitions⟩ k text = (r.resolve k text).map Resolved.pushed ↔
        d.pattern.captures text = none) := by
  have hunder : ∀ r' : Registry W, r'.under k = r.under k → r'.choice k text = r.choice k text := by
    intro r' h
    rw [Registry.choice_eq, Registry.choice_eq, h]
  refine ⟨r.resolve_eq_some_iff k text, r.resolve_eq_none_iff k text, fun found h => ⟨?_, ?_⟩,
    hunder, ?_, fun d hk => ⟨fun captures h => ?_, r.resolve_cons_eq_pushed_iff hk text⟩⟩
  · exact r.resolve_append h
  · intro more r' hmore
    obtain ⟨added, hadded⟩ := Registry.definitions_prefix_of_registerAll hmore
    have hr' : r' = ⟨r.definitions ++ added⟩ := by rw [hadded]
    rw [hr']
    exact r.resolve_append h added
  · intro front others back hr hothers
    refine hunder _ ?_
    have hnone : others.filter (fun d => d.keyword = k) = [] := by
      simpa [List.filter_eq_nil_iff] using hothers
    simp [Registry.under, hr, hnone]
  · rw [r.resolve_cons hk, h]

end FeatureScript
