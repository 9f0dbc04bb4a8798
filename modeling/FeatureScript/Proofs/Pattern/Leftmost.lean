import FeatureScript.Proofs.Pattern.Match

/-!
# FeatureScript.Proofs.Pattern.Leftmost

The match that a search finds.

A way does not come back to a place it has been to. The preferred way of a thread passes by the
successors that cannot accept without doing so, and goes on with the first of the others
(`Preferred`). A search finds the marks of the preferred way of the first start that leads to
anything (`search_preferred`): the places of the entered states are those of the way so far, or
nothing can be reached from them but by these (`Settled`).

For the program of an expression these are the marks of a match, from the first position from which
there is one (`Regex.search_match`), and a search finds nothing just if there is no match
(`Regex.search_eq_none_iff`).
-/

namespace FeatureScript
namespace Pattern

section

variable (program : Array Instr) (text : Array Char)

/-- Some way of the thread accepts and enters no barred place. -/
inductive Reaches (barred : List (Nat × Nat)) : Thread → Prop
  | accepts {t : Thread} (hfree : t.place ∉ barred) (h : t.Accepts program) : Reaches barred t
  | step {t u : Thread} (hfree : t.place ∉ barred) (hu : u ∈ successors program text t)
      (h : Reaches barred u) : Reaches barred t

/-- The preferred way of the thread that enters no barred place accepts with these marks. -/
inductive Preferred : List (Nat × Nat) → Thread → List Mark → Prop
  | accepts {barred : List (Nat × Nat)} {t : Thread} (hfree : t.place ∉ barred)
      (h : t.Accepts program) : Preferred barred t t.marks
  | step {barred : List (Nat × Nat)} {t u : Thread} {skipped rest : List Thread}
      {marks : List Mark} (hfree : t.place ∉ barred)
      (hsuccessors : successors program text t = skipped ++ u :: rest)
      (hskipped : ∀ v ∈ skipped, ¬Reaches program text (t.place :: barred) v)
      (h : Preferred (t.place :: barred) u marks) : Preferred barred t marks

end

section

variable {program : Array Instr} {text : Array Char} {marks : List Mark} {t u v : Thread}
  {barred : List (Nat × Nat)}

/-! ## Barred places -/

theorem Reaches.free (h : Reaches program text barred t) : t.place ∉ barred := by
  cases h with
  | accepts hfree | step hfree => exact hfree

theorem Reaches.of_place (h : Reaches program text barred t) (hplace : t.place = u.place) :
    Reaches program text barred u := by
  induction h generalizing u with
  | accepts hfree h => exact .accepts (hplace ▸ hfree) (h.of_place hplace)
  | step hfree hv _ ih =>
    have hmem := List.mem_map_of_mem (f := Thread.place) hv
    rw [successors_place hplace] at hmem
    obtain ⟨w, hw, hwplace⟩ := List.mem_map.mp hmem
    exact .step (hplace ▸ hfree) hw (ih hwplace.symm)

theorem Reaches.unbar {place : Nat × Nat} (h : Reaches program text (place :: barred) t) :
    Reaches program text barred t := by
  induction h with
  | accepts hfree h => exact .accepts (fun hmem => hfree (List.mem_cons_of_mem _ hmem)) h
  | step hfree hu _ ih => exact .step (fun hmem => hfree (List.mem_cons_of_mem _ hmem)) hu ih

/-- A way that passes a place has passed it for the last time at some point, and then it goes on
with a successor, or ends. -/
theorem Reaches.bar (h : Reaches program text barred u) (t : Thread) :
    Reaches program text (t.place :: barred) u ∨ t.Accepts program ∨
      ∃ v ∈ successors program text t, Reaches program text (t.place :: barred) v := by
  induction h with
  | @accepts u hfree h =>
    by_cases hplace : u.place = t.place
    · exact .inr (.inl (h.of_place hplace))
    · exact .inl (.accepts (by simp [hplace, hfree]) h)
  | @step u w hfree hw _ ih =>
    rcases ih with ih | ih
    · by_cases hplace : u.place = t.place
      · have hmem := List.mem_map_of_mem (f := Thread.place) hw
        rw [successors_place hplace] at hmem
        obtain ⟨v, hv, hvplace⟩ := List.mem_map.mp hmem
        exact .inr (.inr ⟨v, hv, ih.of_place hvplace.symm⟩)
      · exact .inl (.step (by simp [hplace, hfree]) hw ih)
    · exact .inr ih

/-- If no successor can accept without coming back to the thread, the thread cannot accept. -/
theorem not_reaches_of_successors (haccepts : ¬t.Accepts program)
    (h : ∀ v ∈ successors program text t, ¬Reaches program text (t.place :: barred) v) :
    ¬Reaches program text barred t := by
  intro hreaches
  rcases hreaches.bar t with hself | haccept | ⟨v, hv, hv'⟩
  · exact hself.free List.mem_cons_self
  · exact haccepts haccept
  · exact h v hv hv'

theorem Leads.reaches (h : Leads program text t u) (haccepts : u.Accepts program) :
    Reaches program text [] t := by
  induction h using Relation.ReflTransGen.head_induction_on with
  | refl => exact .accepts List.not_mem_nil haccepts
  | head hstep _ ih => exact .step List.not_mem_nil hstep ih

theorem Preferred.ends (h : Preferred program text barred t marks) :
    ∃ n, Ends program text n t marks := by
  induction h with
  | accepts _ h => exact ⟨0, .accepts h⟩
  | step _ hsuccessors _ _ ih =>
    obtain ⟨n, hn⟩ := ih
    exact ⟨n + 1, .step (by rw [hsuccessors]; simp) hn⟩

theorem Preferred.reaches (h : Preferred program text barred t marks) :
    Reaches program text barred t := by
  induction h with
  | accepts hfree h => exact .accepts hfree h
  | step hfree hsuccessors _ _ ih => exact .step hfree (by rw [hsuccessors]; simp) ih.unbar

/-- The first thread of a list with a property is determined. -/
theorem eq_of_first {P : Thread → Prop} {skipped skipped' rest rest' : List Thread}
    (h : skipped ++ t :: rest = skipped' ++ u :: rest') (hskipped : ∀ v ∈ skipped, ¬P v)
    (hskipped' : ∀ v ∈ skipped', ¬P v) (ht : P t) (hu : P u) : t = u := by
  induction skipped generalizing skipped' with
  | nil =>
    cases skipped' with
    | nil => exact (List.cons.inj h).1
    | cons w skipped' =>
      rw [List.nil_append, List.cons_append] at h
      exact absurd ((List.cons.inj h).1 ▸ ht) (hskipped' w List.mem_cons_self)
  | cons w skipped ih =>
    cases skipped' with
    | nil =>
      rw [List.nil_append, List.cons_append] at h
      exact absurd ((List.cons.inj h).1 ▸ hu) (hskipped w List.mem_cons_self)
    | cons w' skipped' =>
      exact ih (List.cons.inj h).2 (fun v hv => hskipped v (List.mem_cons_of_mem _ hv))
        (fun v hv => hskipped' v (List.mem_cons_of_mem _ hv))

/-- A thread has one preferred way. -/
theorem Preferred.unique {marks' : List Mark} (h : Preferred program text barred t marks)
    (h' : Preferred program text barred t marks') : marks = marks' := by
  induction h generalizing marks' with
  | accepts _ haccepts =>
    cases h' with
    | accepts => rfl
    | step _ hsuccessors => simp [successors_of_accepts haccepts] at hsuccessors
  | step _ hsuccessors hskipped hway ih =>
    cases h' with
    | accepts _ haccepts => simp [successors_of_accepts haccepts] at hsuccessors
    | step _ hsuccessors' hskipped' hway' =>
      obtain rfl := eq_of_first (hsuccessors.symm.trans hsuccessors') hskipped hskipped'
        hway.reaches hway'.reaches
      exact ih hway'

/-! ## The table of entered states -/

/-- The barred places were entered, and from the other entered ones nothing can be reached but by
the barred places. -/
structure Settled (program : Array Instr) (text : Array Char) (barred : List (Nat × Nat))
    (visited : Array Bool) : Prop where
  size : visited.size = program.size * (text.size + 1)
  entered : ∀ u, u.Within program text → u.place ∈ barred → Entered program visited u
  dead : ∀ u, u.Within program text → Entered program visited u → ¬Reaches program text barred u

variable {visited : Array Bool}

/-- The way goes on to a place that was not entered. -/
theorem Settled.enter (h : Settled program text barred visited) (ht : t.Within program text) :
    Settled program text (t.place :: barred)
      (visited.setIfInBounds (t.key program) true) where
  size := by rw [Array.size_setIfInBounds, h.size]
  entered u hu hmem := by
    rw [entered_set h.size ht]
    rcases List.mem_cons.mp hmem with hplace | hmem
    · exact .inl (Thread.key_eq hplace.symm)
    · exact .inr (h.entered u hu hmem)
  dead u hu hentered hreaches := by
    rcases (entered_set h.size ht).mp hentered with hkey | hentered
    · exact hreaches.free (by rw [ht.place_eq hu hkey]; exact List.mem_cons_self)
    · exact h.dead u hu hentered hreaches.unbar

/-- The way steps back from a thread that cannot accept. -/
theorem Settled.leave (h : Settled program text (t.place :: barred) visited)
    (ht : ¬t.Accepts program)
    (hsuccessors : ∀ v ∈ successors program text t, ¬Reaches program text (t.place :: barred) v) :
    Settled program text barred visited where
  size := h.size
  entered u hu hmem := h.entered u hu (List.mem_cons_of_mem _ hmem)
  dead u hu hentered hreaches := by
    rcases hreaches.bar t with hreaches | haccepts | ⟨v, hv, hv'⟩
    · exact h.dead u hu hentered hreaches
    · exact ht haccepts
    · exact hsuccessors v hv hv'

/-! ## Runs -/

/-- What a run makes of the threads on top of the stack: it finds what the first of them finds that
can accept without entering a barred place, or leaves them all and goes on below. -/
inductive Handled (program : Array Instr) (text : Array Char) (barred : List (Nat × Nat))
    (fuel : Nat) (rest : List Thread) (marks : List Mark) : List Thread → Prop
  | found {skipped after : List Thread} {t : Thread} :
      (∀ v ∈ skipped, ¬Reaches program text barred v) → Preferred program text barred t marks →
      Handled program text barred fuel rest marks (skipped ++ t :: after)
  | left {top : List Thread} {fuel' : Nat} {visited : Array Bool} :
      (∀ v ∈ top, ¬Reaches program text barred v) → fuel' ≤ fuel →
      Settled program text barred visited → run program text fuel' visited rest = some marks →
      Handled program text barred fuel rest marks top

theorem Handled.head {fuel : Nat} {top rest : List Thread}
    (h : Preferred program text barred t marks) :
    Handled program text barred fuel rest marks (t :: top) := by
  show Handled program text barred fuel rest marks ([] ++ t :: top)
  exact .found (fun _ hv => absurd hv List.not_mem_nil) h

theorem Handled.cons {fuel fuel' : Nat} {top rest : List Thread}
    (h : Handled program text barred fuel rest marks top) (hle : fuel ≤ fuel')
    (ht : ¬Reaches program text barred t) :
    Handled program text barred fuel' rest marks (t :: top) := by
  cases h with
  | found hskipped hway =>
    rw [← List.cons_append]
    exact .found (List.forall_mem_cons.mpr ⟨ht, hskipped⟩) hway
  | left htop hfuel hsettled hrun =>
    exact .left (List.forall_mem_cons.mpr ⟨ht, htop⟩) (Nat.le_trans hfuel hle) hsettled hrun

theorem run_nil (fuel : Nat) (visited : Array Bool) : run program text fuel visited [] = none := by
  cases fuel <;> rfl

theorem run_handled {fuel : Nat} (hclosed : Closed program)
    (hsettled : Settled program text barred visited) {top rest : List Thread}
    (hwithin : ∀ t ∈ top, t.Within program text)
    (h : run program text fuel visited (top ++ rest) = some marks) :
    Handled program text barred fuel rest marks top := by
  induction fuel using Nat.strongRecOn generalizing barred visited top rest with
  | ind fuel ih =>
    cases top with
    | nil => exact .left nofun (Nat.le_refl fuel) hsettled h
    | cons t top =>
      obtain ⟨ht, htop⟩ := List.forall_mem_cons.mp hwithin
      cases fuel with
      | zero => cases h
      | succ fuel =>
        rw [List.cons_append] at h
        rcases run_cons hsettled.size ht h with ⟨hentered, hrun⟩ | ⟨hnew, haccepts, rfl⟩ |
          ⟨hnew, haccepts, hrun⟩
        · exact (ih fuel (Nat.lt_succ_self fuel) hsettled htop hrun).cons (Nat.le_succ fuel)
            (hsettled.dead t ht hentered)
        · exact .head (.accepts (fun hmem => hnew (hsettled.entered t ht hmem)) haccepts)
        · -- The successors are on top now, and the way so far has one place more.
          have hnext := ih fuel (Nat.lt_succ_self fuel) (hsettled.enter ht)
            (fun u hu => ht.successor hclosed hu) hrun
          generalize hsuccessors : successors program text t = us at hnext
          cases hnext with
          | found hskipped hway =>
            exact .head (.step (fun hmem => hnew (hsettled.entered t ht hmem)) hsuccessors
              hskipped hway)
          | left hdead hfuel hsettled' hbelow =>
            rw [← hsuccessors] at hdead
            exact (ih _ (Nat.lt_succ_of_le hfuel) (hsettled'.leave haccepts hdead) htop
              hbelow).cons (Nat.le_trans hfuel (Nat.le_succ fuel))
              (not_reaches_of_successors haccepts hdead)

/-! ## Searches -/

/-- A search finds the marks of the preferred way of the first start that leads to anything. -/
theorem search_preferred (hclosed : Closed program) (hprogram : 0 < program.size)
    (h : search program text = some marks) :
    ∃ start ≤ text.size, (∀ i < start, Barren program text ⟨0, i, []⟩) ∧
      Preferred program text [] ⟨0, start, []⟩ marks := by
  have hsettled : Settled program text []
      (Array.replicate (program.size * (text.size + 1)) false) :=
    ⟨Array.size_replicate, fun _ _ hmem => absurd hmem List.not_mem_nil,
      fun u _ hu => absurd hu (not_entered_replicate u)⟩
  have hrun : run program text (2 * (program.size * (text.size + 1)) + (text.size + 1) + 1)
      (Array.replicate (program.size * (text.size + 1)) false) (starts text.size ++ []) =
      some marks := by rw [List.append_nil]; exact h
  have hhandled := run_handled hclosed hsettled
    (starts_within hprogram (Nat.le_refl text.size)) hrun
  generalize hstarts : starts text.size = top at hhandled
  cases hhandled with
  | left _ _ _ hempty =>
    rw [run_nil] at hempty
    cases hempty
  | @found skipped after t hskipped hway =>
    -- The threads before the one that is found are the starts before its own.
    have hstart : ∀ (i : Nat) (s : Thread), (skipped ++ t :: after)[i]? = some s →
        i ≤ text.size ∧ s = ⟨0, i, []⟩ := by
      intro i s hs
      rw [← hstarts, starts, List.getElem?_map] at hs
      obtain ⟨j, hj, rfl⟩ := Option.map_eq_some_iff.mp hs
      obtain ⟨hlt, rfl⟩ := List.getElem?_eq_some_iff.mp hj
      rw [List.length_range] at hlt
      exact ⟨Nat.le_of_lt_succ hlt, by rw [List.getElem_range]⟩
    obtain ⟨hle, rfl⟩ := hstart skipped.length t (by simp)
    refine ⟨skipped.length, hle, fun i hi u hleads haccepts => ?_, hway⟩
    have hbefore : (skipped ++ ⟨0, skipped.length, []⟩ :: after)[i]? = some skipped[i] := by
      rw [List.getElem?_append_left hi, List.getElem?_eq_getElem hi]
    refine hskipped skipped[i] (List.getElem_mem hi) ?_
    rw [(hstart i _ hbefore).2]
    exact hleads.reaches haccepts

end

/-! ## Matches -/

namespace Regex

variable {r : Regex} {text : Array Char} {start : Nat} {marks : List Mark}

/-- A match that starts at the first position from which there is one. -/
structure FirstMatch (text : Array Char) (r : Regex) (start stop : Nat) (spans : List Span) :
    Prop where
  start_le : start ≤ text.size
  is_match : Matches text r start stop spans
  before : ∀ i < start, ∀ stop' spans', ¬Matches text r i stop' spans'

/-- A start of the program is barren if the expression matches nothing from there. -/
theorem barren_iff (hnested : r.Nested) :
    Barren r.program text ⟨0, start, []⟩ ↔ ∀ stop spans, ¬Matches text r start stop spans := by
  obtain ⟨hcode, haccept⟩ := r.program_holds
  constructor
  · intro hbarren stop spans hmatch
    obtain ⟨marks, hleads⟩ := hmatch.leads hcode []
    exact hbarren _ hleads haccept
  · intro hnone t hleads haccepts
    obtain ⟨n, hends⟩ := hleads.ends haccepts
    obtain ⟨stop, spans, -, hmatch, -⟩ := ends_code hnested hcode hends
    exact hnone stop spans hmatch

/-- A search finds nothing just if the expression matches nowhere in the text. -/
theorem search_eq_none_iff (hnested : r.Nested) :
    search r.program text = none ↔
      ∀ start stop spans, start ≤ text.size → ¬Matches text r start stop spans := by
  have hprogram : 0 < r.program.size := by rw [r.size_program]; exact Nat.succ_pos _
  constructor
  · intro h start stop spans hstart
    exact (barren_iff hnested).mp
      (fun t ht => search_eq_none r.program_closed hprogram h hstart ht) stop spans
  · intro h
    exact search_of_barren fun start hstart =>
      (barren_iff hnested).mpr fun stop spans => h start stop spans hstart

/-- A search finds the marks of a match, from the first position from which there is one, on the
preferred way from there. -/
theorem search_match (hnested : r.Nested) (h : search r.program text = some marks) :
    ∃ start stop spans, FirstMatch text r start stop spans ∧
      Preferred r.program text [] ⟨0, start, []⟩ marks ∧ Records spans marks := by
  have hprogram : 0 < r.program.size := by rw [r.size_program]; exact Nat.succ_pos _
  obtain ⟨hcode, haccept⟩ := r.program_holds
  obtain ⟨start, hstart, hbefore, hway⟩ := search_preferred r.program_closed hprogram h
  obtain ⟨n, hends⟩ := hway.ends
  obtain ⟨stop, spans, made, hmatch, hrecords, m, -, hends⟩ := ends_code hnested hcode hends
  -- Behind the code there is only the acceptance, so no more marks are made.
  have hmarks : marks = made := (hends.marks_eq haccept).trans (List.append_nil made)
  exact ⟨start, stop, spans, ⟨hstart, hmatch, fun i hi => (barren_iff hnested).mp (hbefore i hi)⟩,
    hway, hmarks ▸ hrecords⟩

end Regex
end Pattern
end FeatureScript
