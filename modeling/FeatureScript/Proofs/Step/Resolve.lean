import FeatureScript.Step.Registry

/-!
# FeatureScript.Proofs.Step.Resolve

Looking a step up.

`Definition.Takes` says that a definition stands under a keyword and matches a text,
`Registry.First` that it does and no definition before it does, and `Registry.Lacks` that none does.
A registry resolves a step to the first definition that takes it (`Registry.resolve_eq_some_iff`),
and to nothing exactly if it lacks the step (`Registry.resolve_eq_none_iff`). Definitions get into a
registry one by one (`Registry.register_cases`).
-/

namespace FeatureScript

variable {W : Type}

/-- A pattern that is accepted keeps its text, and is what its text reads as. -/
theorem StepPattern.compile_eq_ok {source : String} {p : StepPattern}
    (h : compile source = .ok p) :
    ∃ e, Pattern.Reader.read source.toList = .ok e ∧ p = ⟨source, e.regex⟩ := by
  unfold compile at h
  split at h
  next e he =>
    cases h
    exact ⟨e, he, rfl⟩
  next => cases h

/-- The definition stands under the keyword and matches the text with these captures. -/
def Definition.Takes (d : Definition W) (k : Keyword) (text : String) (captures : List String) :
    Prop :=
  d.keyword = k ∧ d.pattern.captures text = some captures

namespace Registry

/-- The definition at position `n` takes the step, and none before it does. -/
structure First (definitions : List (Definition W)) (k : Keyword) (text : String) (n : Nat)
    (d : Definition W) (captures : List String) : Prop where
  at_position : definitions[n]? = some d
  takes : d.Takes k text captures
  before : ∀ m < n, ∀ d', definitions[m]? = some d' → ∀ captures', ¬ d'.Takes k text captures'

/-- No definition takes the step. -/
def Lacks (definitions : List (Definition W)) (k : Keyword) (text : String) : Prop :=
  ∀ d ∈ definitions, ∀ captures, ¬ d.Takes k text captures

section

variable {definitions rest : List (Definition W)} {k : Keyword} {text : String} {n position : Nat}
  {d d' : Definition W} {captures : List String}

/-! ## Registering -/

/-- A definition is refused for its keyword, or else for its pattern, or it is added behind the
others. -/
theorem register_cases (r : Registry W) (k : Keyword) (pattern : String) (handler : Handler W) :
    (k.isConjunction = true ∧ r.register k pattern handler = .error (.conjunction k pattern)) ∨
      (k.isConjunction = false ∧ ∃ e, StepPattern.compile pattern = .error e ∧
        r.register k pattern handler = .error (.invalid e)) ∨
      (k.isConjunction = false ∧ ∃ p, StepPattern.compile pattern = .ok p ∧
        r.register k pattern handler = .ok ⟨r.definitions ++ [⟨k, p, handler⟩]⟩) := by
  unfold register
  cases k.isConjunction with
  | true => exact .inl ⟨rfl, rfl⟩
  | false =>
    cases StepPattern.compile pattern with
    | error e => exact .inr (.inl ⟨rfl, e, rfl, rfl⟩)
    | ok p => exact .inr (.inr ⟨rfl, p, rfl, rfl⟩)

/-! ## One definition more -/

theorem resolveFrom_cons_of_takes (h : d.Takes k text captures) :
    resolveFrom k text position (d :: rest) = some ⟨position, d, captures⟩ := by
  rw [resolveFrom, if_pos h.1, h.2]

theorem resolveFrom_cons_of_not_takes (h : ∀ captures, ¬ d.Takes k text captures) :
    resolveFrom k text position (d :: rest) = resolveFrom k text (position + 1) rest := by
  rw [resolveFrom]
  split
  · rename_i hk
    cases hcaptures : d.pattern.captures text with
    | none => rfl
    | some captures => exact absurd ⟨hk, hcaptures⟩ (h captures)
  · rfl

theorem First.head (h : d.Takes k text captures) : First (d :: rest) k text 0 d captures :=
  ⟨rfl, h, fun m hm => absurd hm (Nat.not_lt_zero m)⟩

theorem First.tail (h : First rest k text n d captures)
    (hhead : ∀ captures, ¬ d'.Takes k text captures) :
    First (d' :: rest) k text (n + 1) d captures := by
  refine ⟨h.at_position, h.takes, fun m hm d'' hd'' => ?_⟩
  cases m with
  | zero => cases hd''; exact hhead
  | succ m => exact h.before m (Nat.lt_of_succ_lt_succ hm) d'' hd''

theorem Lacks.cons (h : Lacks rest k text) (hhead : ∀ captures, ¬ d.Takes k text captures) :
    Lacks (d :: rest) k text := by
  intro d' hd'
  rcases List.mem_cons.mp hd' with rfl | hd'
  · exact hhead
  · exact h d' hd'

/-! ## Looking up -/

theorem resolveFrom_spec (definitions : List (Definition W)) (k : Keyword) (text : String)
    (position : Nat) :
    (resolveFrom k text position definitions = none ∧ Lacks definitions k text) ∨
      ∃ n d captures, First definitions k text n d captures ∧
        resolveFrom k text position definitions = some ⟨position + n, d, captures⟩ := by
  induction definitions generalizing position with
  | nil => exact .inl ⟨rfl, fun d hd => (by cases hd)⟩
  | cons d rest ih =>
    by_cases hd : ∃ captures, d.Takes k text captures
    · obtain ⟨captures, hd⟩ := hd
      exact .inr ⟨0, d, captures, .head hd, resolveFrom_cons_of_takes hd⟩
    · have hd' : ∀ captures, ¬ d.Takes k text captures := fun captures h => hd ⟨captures, h⟩
      rw [resolveFrom_cons_of_not_takes hd']
      rcases ih (position + 1) with ⟨hnone, hlacks⟩ | ⟨n, d', captures, hfirst, hsome⟩
      · exact .inl ⟨hnone, hlacks.cons hd'⟩
      · refine .inr ⟨n + 1, d', captures, hfirst.tail hd', ?_⟩
        rw [hsome, Nat.add_assoc, Nat.add_comm 1 n]

theorem lacks_or_first (definitions : List (Definition W)) (k : Keyword) (text : String) :
    Lacks definitions k text ∨ ∃ n d captures, First definitions k text n d captures := by
  rcases resolveFrom_spec definitions k text 0 with ⟨-, hlacks⟩ | ⟨n, d, captures, hfirst, -⟩
  · exact .inl hlacks
  · exact .inr ⟨n, d, captures, hfirst⟩

theorem First.not_lacks (h : First definitions k text n d captures) :
    ¬ Lacks definitions k text :=
  fun hlacks => hlacks d (List.mem_of_getElem? h.at_position) captures h.takes

theorem First.unique {n' : Nat} {captures' : List String}
    (h : First definitions k text n d captures) (h' : First definitions k text n' d' captures') :
    n = n' ∧ d = d' ∧ captures = captures' := by
  have hn : n = n' := by
    rcases Nat.lt_trichotomy n n' with hlt | heq | hlt
    · exact absurd h.takes (h'.before n hlt d h.at_position captures)
    · exact heq
    · exact absurd h'.takes (h.before n' hlt d' h'.at_position captures')
  subst hn
  have hd : d = d' := Option.some.inj (h.at_position.symm.trans h'.at_position)
  subst hd
  exact ⟨rfl, rfl, Option.some.inj (h.takes.2.symm.trans h'.takes.2)⟩

/-! ## More definitions behind -/

/-- The definition that takes a step still does when others are added behind. -/
theorem First.append (h : First definitions k text n d captures) (more : List (Definition W)) :
    First (definitions ++ more) k text n d captures := by
  have hn : n < definitions.length := (List.getElem?_eq_some_iff.mp h.at_position).1
  refine ⟨by rw [List.getElem?_append_left hn, h.at_position], h.takes, fun m hm d' hd' => ?_⟩
  rw [List.getElem?_append_left (Nat.lt_trans hm hn)] at hd'
  exact h.before m hm d' hd'

theorem lacks_append {more : List (Definition W)} :
    Lacks (definitions ++ more) k text ↔ Lacks definitions k text ∧ Lacks more k text :=
  List.forall_mem_append

end

theorem resolve_eq_some_iff (r : Registry W) (k : Keyword) (text : String) (n : Nat)
    (d : Definition W) (captures : List String) :
    r.resolve k text = some ⟨n, d, captures⟩ ↔ First r.definitions k text n d captures := by
  rw [resolve]
  rcases resolveFrom_spec r.definitions k text 0 with
    ⟨hnone, hlacks⟩ | ⟨n', d', captures', hfirst, hsome⟩
  · rw [hnone]
    exact ⟨fun h => (by cases h), fun h => absurd hlacks h.not_lacks⟩
  · rw [hsome, Nat.zero_add]
    constructor
    · intro h
      cases h
      exact hfirst
    · intro h
      obtain ⟨rfl, rfl, rfl⟩ := h.unique hfirst
      rfl

theorem resolve_eq_none_iff (r : Registry W) (k : Keyword) (text : String) :
    r.resolve k text = none ↔ Lacks r.definitions k text := by
  rw [resolve]
  rcases resolveFrom_spec r.definitions k text 0 with
    ⟨hnone, hlacks⟩ | ⟨n, d, captures, hfirst, hsome⟩
  · exact ⟨fun _ => hlacks, fun _ => hnone⟩
  · rw [hsome]
    exact ⟨fun h => (by cases h), fun h => absurd h hfirst.not_lacks⟩

end Registry
end FeatureScript
