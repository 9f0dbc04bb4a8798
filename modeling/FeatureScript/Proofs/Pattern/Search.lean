import FeatureScript.Pattern.Search
import Mathlib.Logic.Relation

/-!
# FeatureScript.Proofs.Pattern.Search

What a search finds.

A thread leads to others by way of its successors (`Leads`). Soundness follows the stack: what is
found was made by a thread that one on the stack leads to. Completeness is about the table of the
states that were entered: what an entered state goes on to was entered too or waits on the stack
(`Explored`). When the stack has run empty, the table holds all that can be reached, and nothing in
it accepts. The rounds suffice, for each of them drops a thread or enters a state
(`run_eq_none`).

`search_eq_some`, `search_eq_none`: the marks of a search are those of an accepting thread that some
start leads to, and a search finds nothing only if there is none.
-/

namespace FeatureScript
namespace Pattern

/-! ## Addresses -/

/-- The addresses an instruction goes on to. -/
def Instr.targets : Instr → List Nat
  | .one _ next | .assert _ next | .mark _ _ next | .jump next => [next]
  | .split first second => [first, second]
  | .accept => []

/-- Every address that is gone on to is one of the program. -/
def Closed (program : Array Instr) : Prop :=
  ∀ (i : Nat) (instr : Instr), program[i]? = some instr → ∀ n ∈ instr.targets, n < program.size

namespace Regex

theorem size_pos (r : Regex) : 0 < r.size := by
  induction r <;> simp only [size] <;> omega

theorem targets_choose {greedy : Bool} {body exit n : Nat}
    (h : n ∈ (Instr.choose greedy body exit).targets) : n = body ∨ n = exit := by
  cases greedy with
  | true => simpa [Instr.choose, Instr.targets] using h
  | false => simpa [Instr.choose, Instr.targets, or_comm] using h

/-- The code of an expression goes on within itself or to `next`. -/
theorem targets_code (r : Regex) (start next : Nat) : ∀ instr ∈ r.code start next,
    ∀ n ∈ instr.targets, (start ≤ n ∧ n < start + r.size) ∨ n = next := by
  induction r generalizing start next with
  | empty | one set | assert a =>
    intro instr hinstr n hn
    rw [List.mem_singleton.mp hinstr] at hn
    exact .inr (List.mem_singleton.mp hn)
  | group i r ih =>
    intro instr hinstr n hn
    simp only [code, List.mem_cons, List.mem_append, List.not_mem_nil, or_false] at hinstr
    simp only [size]
    rcases hinstr with rfl | hinstr | rfl
    · rw [List.mem_singleton.mp hn]; omega
    · rcases ih _ _ instr hinstr n hn with h | h <;> omega
    · exact .inr (List.mem_singleton.mp hn)
  | seq a b iha ihb =>
    intro instr hinstr n hn
    have hb := b.size_pos
    simp only [code, List.mem_append] at hinstr
    simp only [size]
    rcases hinstr with hinstr | hinstr
    · rcases iha _ _ instr hinstr n hn with h | h <;> omega
    · rcases ihb _ _ instr hinstr n hn with h | h <;> omega
  | alt a b iha ihb =>
    intro instr hinstr n hn
    have ha := a.size_pos
    have hb := b.size_pos
    simp only [code, List.mem_cons, List.mem_append] at hinstr
    simp only [size]
    rcases hinstr with rfl | hinstr | hinstr
    · simp only [Instr.targets, List.mem_cons, List.not_mem_nil, or_false] at hn
      omega
    · rcases iha _ _ instr hinstr n hn with h | h <;> omega
    · rcases ihb _ _ instr hinstr n hn with h | h <;> omega
  | optional greedy r ih | many greedy r ih =>
    intro instr hinstr n hn
    have hr := r.size_pos
    simp only [code, List.mem_cons] at hinstr
    simp only [size]
    rcases hinstr with rfl | hinstr
    · rcases targets_choose hn with h | h <;> omega
    · rcases ih _ _ instr hinstr n hn with h | h <;> omega
  | loop greedy r ih =>
    intro instr hinstr n hn
    simp only [code, List.mem_append, List.mem_singleton] at hinstr
    simp only [size]
    rcases hinstr with hinstr | rfl
    · rcases ih _ _ instr hinstr n hn with h | h <;> omega
    · rcases targets_choose hn with h | h <;> omega

theorem size_program (r : Regex) : r.program.size = r.size + 1 := by
  simp [program, length_code]

theorem program_closed (r : Regex) : Closed r.program := by
  intro i instr hinstr n hn
  rw [size_program]
  have hmem : instr ∈ r.code 0 r.size ++ [.accept] := by
    rw [program, List.getElem?_toArray] at hinstr
    exact List.mem_of_getElem? hinstr
  rcases List.mem_append.mp hmem with hmem | hmem
  · rcases r.targets_code 0 r.size instr hmem n hn with h | h <;> omega
  · rw [List.mem_singleton.mp hmem] at hn
    cases hn

end Regex

/-! ## Threads -/

/-- Where a thread is, without its marks. -/
def Thread.place (t : Thread) : Nat × Nat := (t.state, t.position)

section

variable (program : Array Instr) (text : Array Char)

/-- The thread is at an instruction of the program and at a position of the text. -/
def Thread.Within (t : Thread) : Prop := t.state < program.size ∧ t.position ≤ text.size

def Thread.Accepts (t : Thread) : Prop := program[t.state]? = some .accept

/-- The first thread goes on to the second one, in any number of steps. -/
def Leads : Thread → Thread → Prop :=
  Relation.ReflTransGen fun t u => u ∈ successors program text t

end

section

variable {program : Array Instr} {text : Array Char} {t u : Thread}

theorem mem_successors (h : u ∈ successors program text t) :
    ∃ instr, program[t.state]? = some instr ∧ u.state ∈ instr.targets ∧
      u.position ≤ max text.size t.position := by
  unfold successors at h
  cases hinstr : program[t.state]? with
  | none => simp [hinstr] at h
  | some instr =>
    refine ⟨instr, rfl, ?_⟩
    rw [hinstr] at h
    cases instr with
    | one set next =>
      cases hc : text[t.position]? with
      | none => simp [hc] at h
      | some c =>
        have hlt : t.position < text.size := (Array.getElem?_eq_some_iff.mp hc).1
        simp only [hc] at h
        split at h
        · rw [List.mem_singleton.mp h]
          exact ⟨List.mem_singleton_self _, by simp only; omega⟩
        · cases h
    | assert a next =>
      simp only at h
      split at h
      · rw [List.mem_singleton.mp h]
        exact ⟨List.mem_singleton_self _, Nat.le_max_right _ _⟩
      · cases h
    | mark group opens next =>
      rw [List.mem_singleton.mp h]
      exact ⟨List.mem_singleton_self _, Nat.le_max_right _ _⟩
    | split first second =>
      simp only [List.mem_cons, List.not_mem_nil, or_false] at h
      rcases h with rfl | rfl
      · exact ⟨List.mem_cons_self, Nat.le_max_right _ _⟩
      · exact ⟨List.mem_cons_of_mem _ List.mem_cons_self, Nat.le_max_right _ _⟩
    | jump next =>
      rw [List.mem_singleton.mp h]
      exact ⟨List.mem_singleton_self _, Nat.le_max_right _ _⟩
    | accept => cases h

theorem Thread.Within.successor (ht : t.Within program text) (hclosed : Closed program)
    (h : u ∈ successors program text t) : u.Within program text := by
  obtain ⟨instr, hinstr, htarget, hposition⟩ := mem_successors h
  exact ⟨hclosed _ instr hinstr _ htarget, by have := ht.2; omega⟩

/-- At most two threads go on from one. -/
theorem length_successors (program : Array Instr) (text : Array Char) (t : Thread) :
    (successors program text t).length ≤ 2 := by
  unfold successors
  split
  · split
    · split <;> simp
    · simp
  · split <;> simp
  all_goals simp

/-- Where a thread goes on to does not depend on its marks. -/
theorem successors_place (h : t.place = u.place) :
    (successors program text t).map Thread.place =
      (successors program text u).map Thread.place := by
  obtain ⟨state, position, marks⟩ := t
  obtain ⟨state', position', marks'⟩ := u
  simp only [Thread.place, Prod.mk.injEq] at h
  obtain ⟨rfl, rfl⟩ := h
  unfold successors
  simp only
  cases program[state]? with
  | none => rfl
  | some instr =>
    cases instr with
    | one set next =>
      cases text[position]? with
      | none => rfl
      | some c => simp only; split <;> rfl
    | assert a next => simp only; split <;> rfl
    | _ => rfl

end

/-! ## Soundness -/

/-- What is found was made by an accepting thread that one on the stack leads to. -/
theorem run_eq_some {program : Array Instr} {text : Array Char} {fuel : Nat} {visited : Array Bool}
    {stack : List Thread} {marks : List Mark}
    (h : run program text fuel visited stack = some marks) :
    ∃ t ∈ stack, ∃ u, Leads program text t u ∧ u.Accepts program ∧ u.marks = marks := by
  induction fuel generalizing visited stack with
  | zero => cases h
  | succ fuel ih =>
    cases stack with
    | nil => cases h
    | cons t stack =>
      simp only [run] at h
      split at h
      · obtain ⟨v, hv, hu⟩ := ih h
        exact ⟨v, List.mem_cons_of_mem t hv, hu⟩
      · split at h
        · rename_i haccepts
          cases h
          exact ⟨t, List.mem_cons_self, t, .refl, haccepts, rfl⟩
        · obtain ⟨v, hv, u, hleads, hu⟩ := ih h
          rcases List.mem_append.mp hv with hv | hv
          · exact ⟨t, List.mem_cons_self, u, .head hv hleads, hu⟩
          · exact ⟨v, List.mem_cons_of_mem t hv, u, hleads, hu⟩

/-! ## The table of entered states -/

/-- The entry of a thread in the table. -/
def Thread.key (program : Array Instr) (t : Thread) : Nat := t.position * program.size + t.state

/-- The state of the thread was entered at its position. -/
def Entered (program : Array Instr) (visited : Array Bool) (t : Thread) : Prop :=
  visited[t.key program]? = some true

section

variable {program : Array Instr} {text : Array Char} {visited : Array Bool} {t u : Thread}

theorem Thread.key_eq (h : t.place = u.place) : t.key program = u.key program := by
  simp only [place, Prod.mk.injEq] at h
  rw [key, key, h.1, h.2]

theorem Thread.Within.place_eq (ht : t.Within program text) (hu : u.Within program text)
    (h : t.key program = u.key program) : t.place = u.place := by
  have hdiv : ∀ v : Thread, v.Within program text → v.key program / program.size = v.position :=
    fun v hv => by
      rw [Thread.key, Nat.mul_comm, Nat.mul_add_div (by have := hv.1; omega),
        Nat.div_eq_of_lt hv.1]
      rfl
  have hmod : ∀ v : Thread, v.Within program text → v.key program % program.size = v.state :=
    fun v hv => by rw [Thread.key, Nat.mul_comm, Nat.mul_add_mod, Nat.mod_eq_of_lt hv.1]
  rw [Thread.place, Thread.place, ← hmod t ht, ← hmod u hu, ← hdiv t ht, ← hdiv u hu, h]

theorem Thread.Within.key_lt (ht : t.Within program text) :
    t.key program < program.size * (text.size + 1) := by
  have hposition := Nat.mul_le_mul_right program.size ht.2
  have hstate := ht.1
  rw [Thread.key, Nat.mul_add, Nat.mul_one, Nat.mul_comm program.size]
  omega

theorem Entered.of_place (h : Entered program visited t) (hplace : t.place = u.place) :
    Entered program visited u := by
  rw [Entered, ← Thread.key_eq hplace]
  exact h

theorem entered_set (hsize : visited.size = program.size * (text.size + 1))
    (ht : t.Within program text) :
    Entered program (visited.setIfInBounds (t.key program) true) u ↔
      t.key program = u.key program ∨ Entered program visited u := by
  have hlt : t.key program < visited.size := hsize ▸ ht.key_lt
  unfold Entered
  rw [Array.getElem?_setIfInBounds]
  split
  · rename_i hkey
    simp [hkey, hkey ▸ hlt]
  · rename_i hkey
    simp [hkey]

end

/-! ## Completeness -/

section

variable {program : Array Instr} {text : Array Char} {visited : Array Bool} {stack : List Thread}
  {t u : Thread}

/-- No entered state accepts, and what an entered state goes on to was entered or waits. -/
def Explored (program : Array Instr) (text : Array Char) (visited : Array Bool)
    (stack : List Thread) : Prop :=
  ∀ t, t.Within program text → Entered program visited t → ¬ t.Accepts program ∧
    ∀ u ∈ successors program text t, Entered program visited u ∨ ∃ v ∈ stack, v.place = u.place

/-- A thread whose state was entered before can be dropped. -/
theorem Explored.drop (h : Explored program text visited (t :: stack))
    (ht : Entered program visited t) : Explored program text visited stack := by
  intro u hu hentered
  refine ⟨(h u hu hentered).1, fun v hv => ?_⟩
  rcases (h u hu hentered).2 v hv with hv | ⟨w, hw, hplace⟩
  · exact .inl hv
  · rcases List.mem_cons.mp hw with rfl | hw
    · exact .inl (ht.of_place hplace)
    · exact .inr ⟨w, hw, hplace⟩

/-- A thread that does not accept can be entered and be replaced by its successors. -/
theorem Explored.enter (h : Explored program text visited (t :: stack))
    (hsize : visited.size = program.size * (text.size + 1)) (ht : t.Within program text)
    (haccepts : ¬ t.Accepts program) :
    Explored program text (visited.setIfInBounds (t.key program) true)
      (successors program text t ++ stack) := by
  intro u hu hentered
  rcases (entered_set hsize ht).mp hentered with hkey | hentered
  · have hplace : t.place = u.place := ht.place_eq hu hkey
    refine ⟨?_, fun v hv => .inr ?_⟩
    · obtain ⟨hstate, -⟩ := Prod.mk.inj hplace
      rwa [Thread.Accepts, ← hstate]
    · have hmem : v.place ∈ (successors program text t).map Thread.place := by
        rw [successors_place hplace]
        exact List.mem_map_of_mem hv
      obtain ⟨w, hw, hw'⟩ := List.mem_map.mp hmem
      exact ⟨w, List.mem_append_left _ hw, hw'⟩
  · refine ⟨(h u hu hentered).1, fun v hv => ?_⟩
    rcases (h u hu hentered).2 v hv with hv | ⟨w, hw, hplace⟩
    · exact .inl ((entered_set hsize ht).mpr (.inr hv))
    · rcases List.mem_cons.mp hw with rfl | hw
      · exact .inl ((entered_set hsize ht).mpr (.inl (Thread.key_eq hplace)))
      · exact .inr ⟨w, List.mem_append_right _ hw, hplace⟩

/-- Entering a state leaves one less to be entered. -/
theorem count_enter {i : Nat} (h : visited[i]? = some false) :
    (visited.setIfInBounds i true).toList.count false + 1 = visited.toList.count false := by
  obtain ⟨hi, hget⟩ := Array.getElem?_eq_some_iff.mp h
  have hi' : i < visited.toList.length := hi
  have hmem : visited.toList[i] = false := hget
  have hpos : 0 < visited.toList.count false :=
    List.count_pos_iff.mpr (hmem ▸ List.getElem_mem hi')
  rw [Array.toList_setIfInBounds, List.count_set hi', hmem, if_pos (beq_self_eq_true false),
    if_neg (by decide)]
  omega

/-- If a run with rounds enough finds nothing, there is a table of entered states that holds the
stack, and of which nothing is left to be tried. -/
theorem run_eq_none {fuel : Nat} (hclosed : Closed program)
    (hsize : visited.size = program.size * (text.size + 1))
    (hstack : ∀ t ∈ stack, t.Within program text)
    (hfuel : stack.length + 2 * visited.toList.count false < fuel)
    (hexplored : Explored program text visited stack)
    (h : run program text fuel visited stack = none) :
    ∃ visited', Explored program text visited' [] ∧
      (∀ t, Entered program visited t → Entered program visited' t) ∧
      ∀ t ∈ stack, Entered program visited' t := by
  induction fuel generalizing visited stack with
  | zero => omega
  | succ fuel ih =>
    cases stack with
    | nil => exact ⟨visited, hexplored, fun _ ht => ht, by simp⟩
    | cons t stack =>
      obtain ⟨ht, hrest⟩ := List.forall_mem_cons.mp hstack
      have hlt : t.key program < visited.size := hsize ▸ ht.key_lt
      rw [run] at h
      cases hseen : visited[t.key program] with
      | true =>
        have hentered : Entered program visited t := Array.getElem?_eq_some_iff.mpr ⟨hlt, hseen⟩
        have hskip : visited[t.position * program.size + t.state]?.getD true = true := by
          rw [show visited[t.position * program.size + t.state]? = some true from hentered]
          rfl
        simp only [hskip, if_true] at h
        obtain ⟨visited', hexplored', hmore, hin⟩ := ih hsize hrest
          (by simp only [List.length_cons] at hfuel; omega) (hexplored.drop hentered) h
        exact ⟨visited', hexplored', hmore, List.forall_mem_cons.mpr ⟨hmore t hentered, hin⟩⟩
      | false =>
        have hopen : visited[t.key program]? = some false :=
          Array.getElem?_eq_some_iff.mpr ⟨hlt, hseen⟩
        have hnew : ¬ visited[t.position * program.size + t.state]?.getD true = true := by
          rw [show visited[t.position * program.size + t.state]? = some false from hopen]
          decide
        rw [if_neg hnew] at h
        have haccepts : ¬ t.Accepts program := by
          intro haccepts
          rw [show program[t.state]? = some .accept from haccepts] at h
          cases h
        have hnext : run program text fuel (visited.setIfInBounds (t.key program) true)
            (successors program text t ++ stack) = none := by
          split at h
          · cases h
          · exact h
        have hcount := count_enter hopen
        have hlength := length_successors program text t
        obtain ⟨visited', hexplored', hmore, hin⟩ := ih (by rw [Array.size_setIfInBounds, hsize])
          (fun u hu => (List.mem_append.mp hu).elim (ht.successor hclosed) (hrest u))
          (by simp only [List.length_cons, List.length_append] at hfuel ⊢; omega)
          (hexplored.enter hsize ht haccepts) hnext
        have hentered : ∀ u, Entered program visited u → Entered program visited' u := fun u hu =>
          hmore u ((entered_set hsize ht).mpr (.inr hu))
        refine ⟨visited', hexplored', hentered, List.forall_mem_cons.mpr ⟨?_, fun u hu => ?_⟩⟩
        · exact hmore t ((entered_set hsize ht).mpr (.inl rfl))
        · exact hin u (List.mem_append_right _ hu)

/-- Nothing that accepts can be reached from a state that was entered, when nothing is left to be
tried. -/
theorem Explored.not_accepts (h : Explored program text visited []) (hclosed : Closed program)
    (ht : t.Within program text) (hentered : Entered program visited t)
    (hleads : Leads program text t u) : ¬ u.Accepts program := by
  induction hleads using Relation.ReflTransGen.head_induction_on with
  | refl => exact (h u ht hentered).1
  | head hstep _ ih =>
    rcases (h _ ht hentered).2 _ hstep with hnext | ⟨v, hv, -⟩
    · exact ih (ht.successor hclosed hstep) hnext
    · cases hv

end

/-! ## Searches -/

section

variable {program : Array Instr} {text : Array Char}

/-- The starts up to a position. -/
def starts (last : Nat) : List Thread :=
  (List.range (last + 1)).map fun position => ⟨0, position, []⟩

theorem mem_starts {last : Nat} {t : Thread} :
    t ∈ starts last ↔ ∃ position ≤ last, t = ⟨0, position, []⟩ := by
  simp only [starts, List.mem_map, List.mem_range, Nat.lt_succ_iff, eq_comm]

theorem starts_within (hsize : 0 < program.size) {last : Nat} (hlast : last ≤ text.size) :
    ∀ t ∈ starts last, t.Within program text := by
  intro t ht
  obtain ⟨position, hposition, rfl⟩ := mem_starts.mp ht
  exact ⟨hsize, Nat.le_trans hposition hlast⟩

/-- Nothing was entered in a new table. -/
theorem not_entered_replicate {entries : Nat} (t : Thread) :
    ¬Entered program (Array.replicate entries false) t := by
  intro h
  rw [Entered, Array.getElem?_replicate] at h
  split at h <;> cases h

/-- What a search finds was marked on the way from a start to the end of the program. -/
theorem search_eq_some {marks : List Mark} (h : search program text = some marks) :
    ∃ start ≤ text.size, ∃ t, Leads program text ⟨0, start, []⟩ t ∧ t.Accepts program ∧
      t.marks = marks := by
  obtain ⟨s, hs, t, hleads, ht⟩ := run_eq_some h
  obtain ⟨start, hstart, rfl⟩ := mem_starts.mp hs
  exact ⟨start, hstart, t, hleads, ht⟩

/-- A search that finds nothing leaves no way from a start to the end of the program. -/
theorem search_eq_none (hclosed : Closed program) (hsize : 0 < program.size)
    (h : search program text = none) {start : Nat} (hstart : start ≤ text.size) {t : Thread}
    (hleads : Leads program text ⟨0, start, []⟩ t) : ¬ t.Accepts program := by
  have hmem : (⟨0, start, []⟩ : Thread) ∈ starts text.size := mem_starts.mpr ⟨start, hstart, rfl⟩
  have hwithin := starts_within hsize (Nat.le_refl text.size)
  obtain ⟨visited', hexplored, -, hin⟩ := run_eq_none hclosed Array.size_replicate hwithin
    (by simp [starts]; omega) (fun u _ hu => absurd hu (not_entered_replicate u)) h
  exact hexplored.not_accepts hclosed (hwithin _ hmem) (hin _ hmem) hleads

end
end Pattern
end FeatureScript
