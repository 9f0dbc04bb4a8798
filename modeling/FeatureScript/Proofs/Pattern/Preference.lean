import FeatureScript.Proofs.Pattern.Search

/-!
# FeatureScript.Proofs.Pattern.Preference

Which match a search finds.

A thread is barren if it leads to no accepting one. The preferred way of a thread that is not passes
by the barren successors and goes on with the first of the others (`First`). A search passes over
barren threads and follows the preferred way of the first thread that has one: no state on this way
was entered before, since an entered state is barren or has a longer way to go (`run_first`).
-/

namespace FeatureScript
namespace Pattern

section

variable (program : Array Instr) (text : Array Char)

/-- The thread leads to none that accepts. -/
def Barren (t : Thread) : Prop := ∀ u, Leads program text t u → ¬u.Accepts program

/-- The preferred way of the thread accepts after that many steps, with these marks. -/
inductive First : Nat → Thread → List Mark → Prop
  | accepts {t : Thread} (h : t.Accepts program) : First 0 t t.marks
  | step {n : Nat} {t u : Thread} {skipped rest : List Thread} {marks : List Mark}
      (hsuccessors : successors program text t = skipped ++ u :: rest)
      (hskipped : ∀ v ∈ skipped, Barren program text v) (h : First n u marks) :
      First (n + 1) t marks

end

section

variable {program : Array Instr} {text : Array Char} {t u v : Thread} {marks : List Mark} {n : Nat}

theorem successors_of_accepts (h : t.Accepts program) : successors program text t = [] := by
  rw [Thread.Accepts] at h
  rw [successors, h]

theorem Thread.Accepts.of_place (h : t.Accepts program) (hplace : t.place = u.place) :
    u.Accepts program := by
  obtain ⟨hstate, -⟩ := Prod.mk.inj hplace
  rwa [Thread.Accepts, ← hstate]

/-! ## Barren threads -/

/-- Threads at the same place lead to the same places. -/
theorem Leads.of_place (h : Leads program text t v) (hplace : t.place = u.place) :
    ∃ w, Leads program text u w ∧ v.place = w.place := by
  induction h with
  | refl => exact ⟨u, .refl, hplace⟩
  | tail _ hstep ih =>
    obtain ⟨w, hw, hwplace⟩ := ih
    have hmem := List.mem_map_of_mem (f := Thread.place) hstep
    rw [successors_place hwplace] at hmem
    obtain ⟨x, hx, hxplace⟩ := List.mem_map.mp hmem
    exact ⟨x, hw.tail hx, hxplace.symm⟩

theorem Barren.of_place (h : Barren program text t) (hplace : t.place = u.place) :
    Barren program text u := by
  intro v hv haccepts
  obtain ⟨w, hw, hwplace⟩ := hv.of_place hplace.symm
  exact h w hw (haccepts.of_place hwplace)

theorem Barren.successor (h : Barren program text t) (hu : u ∈ successors program text t) :
    Barren program text u := fun v hv => h v (hv.head hu)

theorem Barren.of_successors (haccepts : ¬t.Accepts program)
    (h : ∀ u ∈ successors program text t, Barren program text u) : Barren program text t := by
  intro v hv
  cases hv using Relation.ReflTransGen.head_induction_on with
  | refl => exact haccepts
  | head hstep hrest => exact h _ hstep v hrest

/-! ## Preferred ways -/

theorem First.not_barren (h : First program text n t marks) : ¬Barren program text t := by
  induction h with
  | accepts h => exact fun hbarren => hbarren _ .refl h
  | step hsuccessors _ _ ih =>
    exact fun hbarren => ih (hbarren.successor (by rw [hsuccessors]; simp))

/-- Among successors at the same places, the first that is not barren is at the same place. -/
theorem place_eq_of_first {skipped skipped' rest rest' : List Thread}
    (h : (skipped ++ t :: rest).map Thread.place = (skipped' ++ u :: rest').map Thread.place)
    (hskipped : ∀ v ∈ skipped, Barren program text v)
    (hskipped' : ∀ v ∈ skipped', Barren program text v) (ht : ¬Barren program text t)
    (hu : ¬Barren program text u) : t.place = u.place := by
  induction skipped generalizing skipped' with
  | nil =>
    cases skipped' with
    | nil => exact (List.cons.inj h).1
    | cons w skipped' =>
      exact absurd ((hskipped' w List.mem_cons_self).of_place (List.cons.inj h).1.symm) ht
  | cons w skipped ih =>
    cases skipped' with
    | nil => exact absurd ((hskipped w List.mem_cons_self).of_place (List.cons.inj h).1) hu
    | cons w' skipped' =>
      exact ih (List.cons.inj h).2 (fun v hv => hskipped v (List.mem_cons_of_mem _ hv))
        (fun v hv => hskipped' v (List.mem_cons_of_mem _ hv))

/-- Threads at the same place have ways of the same length. -/
theorem First.length_unique {k : Nat} {marks' : List Mark} (h : First program text n t marks)
    (h' : First program text k u marks') (hplace : t.place = u.place) : n = k := by
  induction h generalizing k u marks' with
  | accepts ht =>
    cases h' with
    | accepts => rfl
    | step hsuccessors => simp [successors_of_accepts (ht.of_place hplace)] at hsuccessors
  | step hsuccessors hskipped hway ih =>
    cases h' with
    | accepts hu => simp [successors_of_accepts (hu.of_place hplace.symm)] at hsuccessors
    | step hsuccessors' hskipped' hway' =>
      have hplaces : (successors program text _).map Thread.place = _ := successors_place hplace
      rw [hsuccessors, hsuccessors'] at hplaces
      rw [ih hway' (place_eq_of_first hplaces hskipped hskipped' hway.not_barren hway'.not_barren)]

theorem First.of_place (h : First program text n t marks) (hplace : t.place = u.place) :
    ∃ marks', First program text n u marks' := by
  induction h generalizing u with
  | accepts ht => exact ⟨_, .accepts (ht.of_place hplace)⟩
  | step hsuccessors hskipped _ ih =>
    have hplaces : (successors program text _).map Thread.place = _ := successors_place hplace
    rw [hsuccessors, List.map_append, List.map_cons] at hplaces
    obtain ⟨skipped', rest', hsuccessors', hskip, hrest⟩ :=
      List.map_eq_append_iff.mp hplaces.symm
    obtain ⟨v, rest'', rfl, hv, -⟩ := List.map_eq_cons_iff.mp hrest
    obtain ⟨marks', hway⟩ := ih hv.symm
    refine ⟨marks', .step hsuccessors' (fun w hw => ?_) hway⟩
    have hmem := List.mem_map_of_mem (f := Thread.place) hw
    rw [hskip] at hmem
    obtain ⟨w', hw', hwplace⟩ := List.mem_map.mp hmem
    exact (hskipped w' hw').of_place hwplace

/-! ## The table of entered states -/

/-- Every entered state is barren or has a longer way to go than the thread that is followed. -/
def Behind (program : Array Instr) (text : Array Char) (n : Nat) (visited : Array Bool) : Prop :=
  ∀ u, u.Within program text → Entered program visited u →
    Barren program text u ∨ ∃ k > n, ∃ marks, First program text k u marks

variable {visited : Array Bool}

theorem Behind.not_entered (h : Behind program text n visited) (ht : t.Within program text)
    (hway : First program text n t marks) : ¬Entered program visited t := by
  intro hentered
  rcases h t ht hentered with hbarren | ⟨k, hk, marks', hway'⟩
  · exact hway.not_barren hbarren
  · exact Nat.ne_of_lt hk (hway.length_unique hway' rfl)

theorem Behind.enter {m : Nat} (h : Behind program text n visited) (hle : m ≤ n)
    (hsize : visited.size = program.size * (text.size + 1)) (ht : t.Within program text)
    (hbehind : Barren program text t ∨ ∃ k > m, ∃ marks, First program text k t marks) :
    Behind program text m (visited.setIfInBounds (t.key program) true) := by
  intro u hu hentered
  rcases (entered_set hsize ht).mp hentered with hkey | hentered
  · have hplace := ht.place_eq hu hkey
    rcases hbehind with hbarren | ⟨k, hk, marks, hway⟩
    · exact .inl (hbarren.of_place hplace)
    · obtain ⟨marks', hway'⟩ := hway.of_place hplace
      exact .inr ⟨k, hk, marks', hway'⟩
  · rcases h u hu hentered with hbarren | ⟨k, hk, hway⟩
    · exact .inl hbarren
    · exact .inr ⟨k, Nat.lt_of_le_of_lt hle hk, hway⟩

/-! ## Runs -/

/-- A round of a run: it drops a thread whose state was entered before, or accepts, or enters a
state. -/
theorem run_cons {fuel : Nat} {stack : List Thread}
    (hsize : visited.size = program.size * (text.size + 1)) (ht : t.Within program text)
    (h : run program text (fuel + 1) visited (t :: stack) = some marks) :
    (Entered program visited t ∧ run program text fuel visited stack = some marks) ∨
      (¬Entered program visited t ∧ t.Accepts program ∧ t.marks = marks) ∨
      (¬Entered program visited t ∧ ¬t.Accepts program ∧
        run program text fuel (visited.setIfInBounds (t.key program) true)
          (successors program text t ++ stack) = some marks) := by
  have hlt : t.key program < visited.size := hsize ▸ ht.key_lt
  have hentry : visited[t.key program]?.getD true = true ↔ Entered program visited t := by
    rw [Entered, Array.getElem?_eq_getElem hlt]
    simp
  rw [run] at h
  split at h
  next hseen => exact .inl ⟨hentry.mp hseen, h⟩
  next hseen =>
    refine .inr ?_
    have hnew : ¬Entered program visited t := fun hentered => hseen (hentry.mpr hentered)
    split at h
    next haccepts => exact .inl ⟨hnew, haccepts, Option.some.inj h⟩
    next haccepts => exact .inr ⟨hnew, haccepts, h⟩

/-- A run that finds something finds the marks of the first thread on the stack that is not barren,
on its preferred way. -/
theorem run_first {fuel : Nat} {skipped rest : List Thread} {found : List Mark}
    (hclosed : Closed program) (hsize : visited.size = program.size * (text.size + 1))
    (hwithin : ∀ u ∈ skipped ++ t :: rest, u.Within program text)
    (hskipped : ∀ u ∈ skipped, Barren program text u) (hway : First program text n t marks)
    (hbehind : Behind program text n visited)
    (h : run program text fuel visited (skipped ++ t :: rest) = some found) : found = marks := by
  -- Round by round. On the stack there are barren threads and then the one that is followed, and
  -- the states that were entered are behind it.
  induction fuel generalizing visited skipped t rest n with
  | zero => cases h
  | succ fuel ih =>
    cases skipped with
    | cons b skipped =>
      rw [List.cons_append] at hwithin h
      obtain ⟨hb, hwithin⟩ := List.forall_mem_cons.mp hwithin
      obtain ⟨hbarren, hskipped⟩ := List.forall_mem_cons.mp hskipped
      rcases run_cons hsize hb h with ⟨-, hrun⟩ | ⟨-, haccepts, -⟩ | ⟨-, -, hrun⟩
      · exact ih hsize hwithin hskipped hway hbehind hrun
      · exact absurd haccepts (hbarren b .refl)
      · rw [← List.append_assoc] at hrun
        -- All that a barren thread puts on the stack is barren as well.
        refine ih (by rw [Array.size_setIfInBounds, hsize]) (fun u hu => ?_) (fun u hu => ?_) hway
          (hbehind.enter (Nat.le_refl n) hsize hb (.inl hbarren)) hrun
        · rw [List.append_assoc] at hu
          exact (List.mem_append.mp hu).elim (hb.successor hclosed) (hwithin u)
        · exact (List.mem_append.mp hu).elim hbarren.successor (hskipped u)
    | nil =>
      obtain ⟨ht, hwithin⟩ := List.forall_mem_cons.mp hwithin
      rcases run_cons hsize ht h with ⟨hentered, -⟩ | ⟨-, haccepts, hmarks⟩ | ⟨-, haccepts, hrun⟩
      · exact absurd hentered (hbehind.not_entered ht hway)
      · cases hway with
        | accepts => exact hmarks.symm
        | step hsuccessors => simp [successors_of_accepts haccepts] at hsuccessors
      · cases hway with
        | accepts h => exact absurd h haccepts
        | @step n t u skipped rest' marks hsuccessors hskipped hway =>
          -- One step on, the state that is entered now has one step more to go.
          have hbehind' := hbehind.enter (Nat.le_succ n) hsize ht
            (.inr ⟨n + 1, Nat.lt_succ_self n, marks, .step hsuccessors hskipped hway⟩)
          rw [hsuccessors, List.append_assoc, List.cons_append] at hrun
          refine ih (by rw [Array.size_setIfInBounds, hsize]) (fun v hv => ?_) hskipped hway
            hbehind' hrun
          rw [← List.cons_append, ← List.append_assoc, ← hsuccessors] at hv
          exact (List.mem_append.mp hv).elim (ht.successor hclosed) (hwithin v)

/-! ## Searches -/

/-- A search finds the marks of the first start that is not barren, on its preferred way. -/
theorem search_of_first (hclosed : Closed program) (hprogram : 0 < program.size) {start : Nat}
    (hstart : start ≤ text.size) (hbarren : ∀ i < start, Barren program text ⟨0, i, []⟩)
    (hway : First program text n ⟨0, start, []⟩ marks) : search program text = some marks := by
  cases hsearch : search program text with
  | none =>
    exact absurd (fun u hu => search_eq_none hclosed hprogram hsearch hstart hu) hway.not_barren
  | some found =>
    obtain ⟨k, hk⟩ := Nat.exists_eq_add_of_le hstart
    have hstarts : (List.range (text.size + 1)).map (fun i => (⟨0, i, []⟩ : Thread)) =
        (List.range start).map (fun i => (⟨0, i, []⟩ : Thread)) ++ ⟨0, start, []⟩ ::
          ((List.range k).map fun i => ⟨0, start + (i + 1), []⟩) := by
      rw [hk, Nat.add_assoc, List.range_add, List.map_append, List.range_succ_eq_map]
      simp [Function.comp_def]
    have hrun := hsearch
    rw [search, hstarts] at hrun
    refine congrArg some (run_first hclosed Array.size_replicate (fun u hu => ?_) (fun u hu => ?_)
      hway (fun u _ hu => absurd hu (not_entered_replicate u)) hrun)
    · rw [← hstarts] at hu
      exact starts_within hprogram (Nat.le_refl text.size) u hu
    · obtain ⟨i, hi, rfl⟩ := List.mem_map.mp hu
      exact hbarren i (List.mem_range.mp hi)

/-- A search finds nothing if all starts are barren. -/
theorem search_of_barren (hbarren : ∀ i ≤ text.size, Barren program text ⟨0, i, []⟩) :
    search program text = none := by
  cases hsearch : search program text with
  | none => rfl
  | some found =>
    obtain ⟨start, hstart, t, hleads, haccepts, -⟩ := search_eq_some hsearch
    exact absurd haccepts (hbarren start hstart t hleads)

end

end Pattern
end FeatureScript
