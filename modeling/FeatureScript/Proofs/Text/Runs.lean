import Mathlib.Data.List.Basic

/-!
# FeatureScript.Proofs.Text.Runs

The maximal runs of elements with a property in a list.

`RunAt` says that a run stands at a place of a list, and `Runs` that some runs are all runs of the
list, from its front to its back. No two sequences are that (`Runs.unique`). A list has the runs of
its two parts if no run stands across the cut between them (`Places.append`): an element without the
property can be left out (`Runs.skip`), and a run at the front can be taken off (`Runs.take`).
-/

namespace FeatureScript
namespace Text

variable {α : Type} {p : α → Prop} {front back xs : List α}

/-- What stands between `before` and `after` has the property and is not nothing. There is no
element with the property right in front of it, and none right behind it. -/
structure IsRun (p : α → Prop) (before run after : List α) : Prop where
  nonempty : run ≠ []
  all : ∀ x ∈ run, p x
  front : ∀ x ∈ before.getLast?, ¬p x
  back : ∀ x ∈ after.head?, ¬p x

/-- A run of the list begins at the place. -/
def RunAt (p : α → Prop) (xs : List α) (start : Nat) (run : List α) : Prop :=
  ∃ before after, xs = before ++ (run ++ after) ∧ before.length = start ∧ IsRun p before run after

/-- All runs of the list with the places where they begin, in ascending order. -/
structure Places (p : α → Prop) (xs : List α) (places : List (Nat × List α)) : Prop where
  mem_iff : ∀ start run, (start, run) ∈ places ↔ RunAt p xs start run
  ascending : places.Pairwise fun a b => a.1 < b.1

/-- The runs of the list, from the first one to the last one. -/
def Runs (p : α → Prop) (xs : List α) (runs : List (List α)) : Prop :=
  ∃ places, Places p xs places ∧ places.map Prod.snd = runs

theorem Places.unique {places places' : List (Nat × List α)} (h : Places p xs places)
    (h' : Places p xs places') : places = places' := by
  have hnodup : ∀ {l : List (Nat × List α)}, l.Pairwise (fun a b => a.1 < b.1) → l.Nodup :=
    fun hl => hl.imp fun {a b} hlt (heq : a = b) => Nat.lt_irrefl _ (heq ▸ hlt)
  have hperm : places.Perm places' :=
    (List.perm_ext_iff_of_nodup (hnodup h.ascending) (hnodup h'.ascending)).mpr
      fun ⟨start, run⟩ => (h.mem_iff start run).trans (h'.mem_iff start run).symm
  exact hperm.eq_of_pairwise (fun _ _ _ _ hab hba => absurd hba (Nat.lt_asymm hab)) h.ascending
    h'.ascending

theorem Runs.unique {runs runs' : List (List α)} (h : Runs p xs runs) (h' : Runs p xs runs') :
    runs = runs' := by
  obtain ⟨places, hplaces, rfl⟩ := h
  obtain ⟨places', hplaces', rfl⟩ := h'
  rw [hplaces.unique hplaces']

theorem Runs.of_mem {runs : List (List α)} {run : List α} (h : Runs p xs runs) (hrun : run ∈ runs) :
    run ≠ [] ∧ ∀ x ∈ run, p x := by
  obtain ⟨places, hplaces, rfl⟩ := h
  obtain ⟨⟨start, run⟩, hmem, rfl⟩ := List.mem_map.mp hrun
  obtain ⟨_, _, -, -, hrun⟩ := (hplaces.mem_iff start run).mp hmem
  exact ⟨hrun.nonempty, hrun.all⟩

/-! ## Runs of a list in two parts -/

/-- No run stands on both sides of the cut between two lists. -/
def Cut (p : α → Prop) (front back : List α) : Prop :=
  (∀ x ∈ front.getLast?, ¬p x) ∨ ∀ x ∈ back.head?, ¬p x

theorem IsRun.head {before run after : List α} (h : IsRun p before run after) :
    ∃ x rest, run = x :: rest ∧ p x := by
  obtain ⟨x, rest, rfl⟩ := List.exists_cons_of_ne_nil h.nonempty
  exact ⟨x, rest, rfl, h.all x List.mem_cons_self⟩

/-- Behind a cut stand the runs of what is there. -/
theorem runAt_append (hcut : Cut p front back) {start : Nat} {run : List α} :
    RunAt p (front ++ back) (front.length + start) run ↔ RunAt p back start run := by
  constructor
  · rintro ⟨before, after, heq, hstart, hrun⟩
    obtain ⟨before, rfl⟩ : front <+: before :=
      List.prefix_of_prefix_length_le ⟨back, rfl⟩ ⟨_, heq.symm⟩ (by omega)
    rw [List.append_assoc, List.append_cancel_left_eq] at heq
    rw [List.length_append, Nat.add_left_cancel_iff] at hstart
    refine ⟨before, after, heq, hstart, { hrun with front := fun x hx => hrun.front x ?_ }⟩
    rw [List.getLast?_append, hx]
    rfl
  · rintro ⟨before, after, rfl, rfl, hrun⟩
    refine ⟨front ++ before, after, by simp, by simp, { hrun with front := ?_ }⟩
    cases before with
    | nil =>
      rw [List.append_nil]
      refine hcut.resolve_right fun hback => ?_
      obtain ⟨x, rest, rfl, hx⟩ := hrun.head
      exact hback x rfl hx
    | cons y before =>
      rw [List.getLast?_append_of_ne_nil _ (List.cons_ne_nil y before)]
      exact hrun.front

/-- The runs that begin in front of a cut come first, and then those behind it. -/
theorem Places.append {places : List (Nat × List α)} (hcut : Cut p front back)
    (first : List (Nat × List α))
    (hfirst : ∀ start run,
      (start, run) ∈ first ↔ start < front.length ∧ RunAt p (front ++ back) start run)
    (hascending : first.Pairwise fun a b => a.1 < b.1) (h : Places p back places) :
    Places p (front ++ back)
      (first ++ places.map fun (start, run) => (front.length + start, run)) where
  mem_iff start run := by
    rw [List.mem_append, hfirst, List.mem_map]
    constructor
    · rintro (⟨-, hrun⟩ | ⟨⟨n, run⟩, hmem, heq⟩)
      · exact hrun
      · cases heq
        exact (runAt_append hcut).mpr ((h.mem_iff n run).mp hmem)
    · intro hrun
      rcases Nat.lt_or_ge start front.length with hlt | hge
      · exact .inl ⟨hlt, hrun⟩
      · obtain ⟨n, rfl⟩ := Nat.exists_eq_add_of_le hge
        exact .inr ⟨(n, run), (h.mem_iff n run).mpr ((runAt_append hcut).mp hrun), rfl⟩
  ascending := by
    refine List.pairwise_append.mpr ⟨hascending, ?_, ?_⟩
    · exact List.pairwise_map.mpr (h.ascending.imp (Nat.add_lt_add_left · _))
    · rintro ⟨m, run⟩ hrun _ hmem
      obtain ⟨⟨n, run'⟩, -, rfl⟩ := List.mem_map.mp hmem
      exact Nat.lt_of_lt_of_le ((hfirst m run).mp hrun).1 (Nat.le_add_right _ _)

theorem Runs.nil : Runs p [] [] := by
  refine ⟨[], ⟨fun start run => iff_of_false List.not_mem_nil ?_, .nil⟩, rfl⟩
  rintro ⟨before, after, heq, -, hrun⟩
  obtain ⟨x, rest, rfl, -⟩ := hrun.head
  simp at heq

/-- An element without the property stands in no run. -/
theorem Runs.skip {x : α} {runs : List (List α)} (hx : ¬p x) (h : Runs p xs runs) :
    Runs p (x :: xs) runs := by
  obtain ⟨places, hplaces, rfl⟩ := h
  have hcut : Cut p [x] xs := .inl (by simpa using hx)
  refine ⟨_, hplaces.append hcut [] ?_ .nil, by simp [Function.comp_def]⟩
  intro start run
  refine iff_of_false List.not_mem_nil ?_
  -- a run that begins in front of the cut begins with `x`
  rintro ⟨hstart, before, after, heq, hlength, hrun⟩
  obtain rfl : before = [] := List.length_eq_zero_iff.mp (by simp at hstart; omega)
  obtain ⟨y, rest, rfl, hy⟩ := hrun.head
  obtain ⟨rfl, -⟩ := List.cons.inj heq
  exact hx hy

/-- Where a list begins with elements that have the property, it is settled how many there are. -/
theorem run_eq_of_append_eq {run run' after after' : List α} (h : run ++ after = run' ++ after')
    (hall : ∀ x ∈ run, p x) (hall' : ∀ x ∈ run', p x) (hback : ∀ x ∈ after.head?, ¬p x)
    (hback' : ∀ x ∈ after'.head?, ¬p x) : run = run' := by
  rcases List.append_eq_append_iff.mp h with ⟨rest, rfl, rfl⟩ | ⟨rest, rfl, rfl⟩
  · cases rest with
    | nil => rw [List.append_nil]
    | cons x rest => exact absurd (hall' x (by simp)) (hback x rfl)
  · cases rest with
    | nil => rw [List.append_nil]
    | cons x rest => exact absurd (hall x (by simp)) (hback' x rfl)

/-- Elements with the property in front of one without it, or of nothing, are the first run. -/
theorem Runs.take {runs : List (List α)} (hne : front ≠ []) (hall : ∀ x ∈ front, p x)
    (hback : ∀ x ∈ back.head?, ¬p x) (h : Runs p back runs) :
    Runs p (front ++ back) (front :: runs) := by
  obtain ⟨places, hplaces, rfl⟩ := h
  refine ⟨_, hplaces.append (.inr hback) [(0, front)] ?_ (List.pairwise_singleton _ _),
    by simp [Function.comp_def]⟩
  intro start run
  rw [List.mem_singleton, Prod.mk.injEq]
  constructor
  · rintro ⟨rfl, rfl⟩
    exact ⟨List.length_pos_iff.mpr hne, [], back, rfl, rfl, ⟨hne, hall, nofun, hback⟩⟩
  · rintro ⟨hstart, before, after, heq, rfl, hrun⟩
    obtain ⟨rest, rfl⟩ : before <+: front :=
      List.prefix_of_prefix_length_le ⟨_, heq.symm⟩ ⟨back, rfl⟩ (Nat.le_of_lt hstart)
    -- the last element in front of the run has the property, so there is none
    obtain rfl : before = [] := by
      by_contra hbefore
      have hlast := List.getLast?_eq_some_getLast hbefore
      exact hrun.front _ hlast (hall _ (List.mem_append_left _ (List.getLast_mem hbefore)))
    have hsame : rest ++ back = run ++ after := heq
    exact ⟨rfl, (run_eq_of_append_eq hsame hall hrun.all hback hrun.back).symm⟩

end Text
end FeatureScript
