import FeatureScript.Proofs.Pattern.Backtrack

/-!
# FeatureScript.Proofs.Pattern.Match

What an expression matches.

`Regex.Matches` says between which positions of a text an expression matches, and what its groups
match there. The code of an expression takes a thread from the one position to the other just if
the expression matches between them: a way through the code leaves it behind a match
(`Regex.ends_code`), and there is a way for each match (`Regex.Matches.leads`). The marks on the way
record the last match of every group (`Records`), if no group stands in itself.
-/

namespace FeatureScript
namespace Pattern

/-- A part of a text that a group matches. -/
structure Span where
  group : Nat
  first : Nat
  last : Nat
  deriving DecidableEq, Repr

namespace Regex

/-- The expression matches between two positions of the text, and its groups match these parts of
it, the last one first. -/
inductive Matches (text : Array Char) : Regex → Nat → Nat → List Span → Prop
  | empty {p : Nat} : Matches text .empty p p []
  | one {set : CharSet} {c : Char} {p : Nat} : text[p]? = some c → set.has c = true →
      Matches text (.one set) p (p + 1) []
  | assert {a : Assertion} {p : Nat} : a.holds text p = true → Matches text (.assert a) p p []
  | group {i p q : Nat} {r : Regex} {spans : List Span} : Matches text r p q spans →
      Matches text (.group i r) p q (⟨i, p, q⟩ :: spans)
  | seq {a b : Regex} {p m q : Nat} {before after : List Span} : Matches text a p m before →
      Matches text b m q after → Matches text (.seq a b) p q (after ++ before)
  | left {a b : Regex} {p q : Nat} {spans : List Span} : Matches text a p q spans →
      Matches text (.alt a b) p q spans
  | right {a b : Regex} {p q : Nat} {spans : List Span} : Matches text b p q spans →
      Matches text (.alt a b) p q spans
  | absent {greedy : Bool} {r : Regex} {p : Nat} : Matches text (.optional greedy r) p p []
  | present {greedy : Bool} {r : Regex} {p q : Nat} {spans : List Span} :
      Matches text r p q spans → Matches text (.optional greedy r) p q spans
  | leave {greedy : Bool} {r : Regex} {p : Nat} : Matches text (.many greedy r) p p []
  | round {greedy : Bool} {r : Regex} {p m q : Nat} {before after : List Span} :
      Matches text r p m before → Matches text (.many greedy r) m q after →
      Matches text (.many greedy r) p q (after ++ before)
  | once {greedy : Bool} {r : Regex} {p q : Nat} {spans : List Span} :
      Matches text r p q spans → Matches text (.loop greedy r) p q spans
  | again {greedy : Bool} {r : Regex} {p m q : Nat} {before after : List Span} :
      Matches text r p m before → Matches text (.loop greedy r) m q after →
      Matches text (.loop greedy r) p q (after ++ before)

/-- The group with this index and this body stands somewhere in the expression. -/
def HasGroup : Regex → Nat → Regex → Prop
  | empty, _, _ | one _, _, _ | assert _, _, _ => False
  | group j r, i, body => (j = i ∧ r = body) ∨ r.HasGroup i body
  | seq a b, i, body | alt a b, i, body => a.HasGroup i body ∨ b.HasGroup i body
  | optional _ r, i, body | many _ r, i, body | loop _ r, i, body => r.HasGroup i body

/-- No group stands in a group with the same index. -/
def Nested (r : Regex) : Prop :=
  ∀ i body inner, r.HasGroup i body → ¬body.HasGroup i inner

theorem HasGroup.le_groups {r body : Regex} {i : Nat} (h : r.HasGroup i body) : i ≤ r.groups := by
  induction r with
  | empty | one | assert => exact h.elim
  | group j r ih =>
    rcases h with ⟨rfl, -⟩ | h
    · exact Nat.le_max_left _ _
    · exact Nat.le_trans (ih h) (Nat.le_max_right _ _)
  | seq a b iha ihb | alt a b iha ihb =>
    rcases h with h | h
    · exact Nat.le_trans (iha h) (Nat.le_max_left _ _)
    · exact Nat.le_trans (ihb h) (Nat.le_max_right _ _)
  | optional _ r ih | many _ r ih | loop _ r ih => exact ih h

/-- The number of groups is the index of one of them, or there are none. -/
theorem exists_hasGroup_groups {r : Regex} (h : 0 < r.groups) :
    ∃ body, r.HasGroup r.groups body := by
  have hmax : ∀ m n : Nat, max m n = m ∨ max m n = n := by omega
  induction r with
  | empty | one | assert => exact absurd h (Nat.lt_irrefl 0)
  | group j r ih =>
    rw [groups] at h ⊢
    rcases hmax j r.groups with heq | heq
    · exact ⟨r, .inl ⟨heq.symm, rfl⟩⟩
    · rw [heq] at h ⊢
      obtain ⟨body, hbody⟩ := ih h
      exact ⟨body, .inr hbody⟩
  | seq a b iha ihb | alt a b iha ihb =>
    rw [groups] at h ⊢
    rcases hmax a.groups b.groups with heq | heq
    · rw [heq] at h ⊢
      obtain ⟨body, hbody⟩ := iha h
      exact ⟨body, .inl hbody⟩
    · rw [heq] at h ⊢
      obtain ⟨body, hbody⟩ := ihb h
      exact ⟨body, .inr hbody⟩
  | optional _ r ih | many _ r ih | loop _ r ih => exact ih h

namespace Matches

variable {text : Array Char} {r : Regex} {p q : Nat} {spans : List Span}

/-- What the groups match lies within the match, and the groups are those of the expression. -/
theorem within (h : Matches text r p q spans) : p ≤ q ∧
    ∀ s ∈ spans, p ≤ s.first ∧ s.first ≤ s.last ∧ s.last ≤ q ∧
      ∃ body, r.HasGroup s.group body := by
  induction h with
  | empty | assert | absent | leave => exact ⟨Nat.le_refl _, nofun⟩
  | one => exact ⟨Nat.le_succ _, nofun⟩
  | @group i p q r spans _ ih =>
    obtain ⟨hle, hspans⟩ := ih
    refine ⟨hle, List.forall_mem_cons.mpr ⟨⟨Nat.le_refl _, hle, Nat.le_refl _, r, .inl ⟨rfl, rfl⟩⟩,
      fun s hs => ?_⟩⟩
    obtain ⟨hfirst, hmiddle, hlast, body, hbody⟩ := hspans s hs
    exact ⟨hfirst, hmiddle, hlast, body, .inr hbody⟩
  | seq _ _ iha ihb =>
    refine ⟨Nat.le_trans iha.1 ihb.1, fun s hs => ?_⟩
    rcases List.mem_append.mp hs with hs | hs
    · obtain ⟨hfirst, hmiddle, hlast, body, hbody⟩ := ihb.2 s hs
      exact ⟨Nat.le_trans iha.1 hfirst, hmiddle, hlast, body, .inr hbody⟩
    · obtain ⟨hfirst, hmiddle, hlast, body, hbody⟩ := iha.2 s hs
      exact ⟨hfirst, hmiddle, Nat.le_trans hlast ihb.1, body, .inl hbody⟩
  | left _ ih =>
    refine ⟨ih.1, fun s hs => ?_⟩
    obtain ⟨hfirst, hmiddle, hlast, body, hbody⟩ := ih.2 s hs
    exact ⟨hfirst, hmiddle, hlast, body, .inl hbody⟩
  | right _ ih =>
    refine ⟨ih.1, fun s hs => ?_⟩
    obtain ⟨hfirst, hmiddle, hlast, body, hbody⟩ := ih.2 s hs
    exact ⟨hfirst, hmiddle, hlast, body, .inr hbody⟩
  | present _ ih | once _ ih => exact ih
  | round _ _ iha ihb | again _ _ iha ihb =>
    refine ⟨Nat.le_trans iha.1 ihb.1, fun s hs => ?_⟩
    rcases List.mem_append.mp hs with hs | hs
    · obtain ⟨hfirst, hmiddle, hlast, hbody⟩ := ihb.2 s hs
      exact ⟨Nat.le_trans iha.1 hfirst, hmiddle, hlast, hbody⟩
    · obtain ⟨hfirst, hmiddle, hlast, hbody⟩ := iha.2 s hs
      exact ⟨hfirst, hmiddle, Nat.le_trans hlast ihb.1, hbody⟩

/-- A match that starts within the text ends within it. -/
theorem le_size (h : Matches text r p q spans) (hp : p ≤ text.size) : q ≤ text.size := by
  induction h with
  | empty | assert | absent | leave => exact hp
  | one hc => exact (Array.getElem?_eq_some_iff.mp hc).1
  | group _ ih | left _ ih | right _ ih | present _ ih | once _ ih => exact ih hp
  | seq _ _ iha ihb | round _ _ iha ihb | again _ _ iha ihb => exact ihb (iha hp)

/-- The code of the expression takes a thread through the match. -/
theorem leads (h : Matches text r p q spans) {program : Array Instr} {start next : Nat}
    (hcode : Holds program start (r.code start next)) (marks : List Mark) :
    ∃ marks', Leads program text ⟨start, p, marks⟩ ⟨next, q, marks'⟩ := by
  have hchoose : ∀ {i body exit p : Nat} {greedy : Bool} {marks : List Mark},
      program[i]? = some (.choose greedy body exit) →
      (⟨body, p, marks⟩ : Thread) ∈ successors program text ⟨i, p, marks⟩ ∧
        (⟨exit, p, marks⟩ : Thread) ∈ successors program text ⟨i, p, marks⟩ := by
    intro i body exit p greedy marks hi
    cases greedy <;> simp [successors, hi, Instr.choose]
  induction h generalizing start next marks with
  | empty =>
    have hinstr := hcode.head
    exact ⟨marks, .single (by simp [successors, hinstr])⟩
  | one hc hset =>
    have hinstr := hcode.head
    exact ⟨marks, .single (by simp [successors, hinstr, hc, hset])⟩
  | assert ha =>
    have hinstr := hcode.head
    exact ⟨marks, .single (by simp [successors, hinstr, ha])⟩
  | @group i p q r spans _ ih =>
    have hopen := hcode.head
    have hclose := (hcode.tail.right (r.length_code _ _)).head
    obtain ⟨made, hbody⟩ := ih hcode.tail.left (⟨i, true, p⟩ :: marks)
    exact ⟨⟨i, false, q⟩ :: made, .tail (.head (by simp [successors, hopen]) hbody)
      (by simp [successors, hclose])⟩
  | @seq a b p m q before after _ _ iha ihb =>
    obtain ⟨made, ha⟩ := iha hcode.left marks
    obtain ⟨made', hb⟩ := ihb (hcode.right (a.length_code _ _)) made
    exact ⟨made', ha.trans hb⟩
  | left _ ih =>
    have hsplit := hcode.head
    obtain ⟨made, ha⟩ := ih hcode.tail.left marks
    exact ⟨made, .head (by simp [successors, hsplit]) ha⟩
  | @right a b p q spans _ ih =>
    have hsplit := hcode.head
    obtain ⟨made, hb⟩ := ih (hcode.tail.right (a.length_code _ _)) marks
    exact ⟨made, .head (by simp [successors, hsplit]) hb⟩
  | absent | leave => exact ⟨marks, .single (hchoose hcode.head).2⟩
  | present _ ih =>
    obtain ⟨made, hbody⟩ := ih hcode.tail marks
    exact ⟨made, .head (hchoose hcode.head).1 hbody⟩
  | round _ _ ih ihrest =>
    obtain ⟨made, hbody⟩ := ih hcode.tail marks
    obtain ⟨made', hrest⟩ := ihrest hcode made
    exact ⟨made', .head (hchoose hcode.head).1 (hbody.trans hrest)⟩
  | @once greedy r p q spans _ ih =>
    obtain ⟨made, hbody⟩ := ih hcode.left marks
    exact ⟨made, hbody.tail (hchoose (hcode.right (r.length_code _ _)).head).2⟩
  | @again greedy r p m q before after _ _ ih ihrest =>
    obtain ⟨made, hbody⟩ := ih hcode.left marks
    obtain ⟨made', hrest⟩ := ihrest hcode made
    exact ⟨made', (hbody.tail (hchoose (hcode.right (r.length_code _ _)).head).1).trans hrest⟩

end Matches
end Regex

/-! ## Marks and spans -/

/-- The last marks of every group are those of its last span. -/
def Records (spans : List Span) (marks : List Mark) : Prop :=
  ∀ i, (marks.find? fun m => m.group == i && m.opens).map Mark.position =
      (spans.find? (·.group == i)).map Span.first ∧
    (marks.find? fun m => m.group == i && !m.opens).map Mark.position =
      (spans.find? (·.group == i)).map Span.last

theorem Records.nil : Records [] [] := fun _ => ⟨rfl, rfl⟩

theorem Records.append {before after : List Span} {made made' : List Mark}
    (h : Records before made) (h' : Records after made') :
    Records (after ++ before) (made' ++ made) := by
  intro i
  simp only [List.find?_append, Option.map_or, h i, h' i, and_self]

/-- The marks around those of a body record a span of the group, which has none in the body. -/
theorem Records.group {i p q : Nat} {spans : List Span} {made : List Mark}
    (h : Records spans made) (hfree : ∀ s ∈ spans, s.group ≠ i) :
    Records (⟨i, p, q⟩ :: spans) (⟨i, false, q⟩ :: (made ++ [⟨i, true, p⟩])) := by
  intro j
  obtain ⟨hopens, hcloses⟩ := h j
  by_cases hj : i = j
  · subst hj
    have hnone : spans.find? (·.group == i) = none :=
      List.find?_eq_none.mpr fun s hs => by simpa using hfree s hs
    rw [hnone, Option.map_none, Option.map_eq_none_iff] at hopens
    simp [List.find?_append, hopens]
  · simp [List.find?_append, hj, hopens, hcloses]

theorem Records.spanOf? {spans : List Span} {marks : List Mark} (h : Records spans marks)
    (i : Nat) :
    spanOf? marks i = (spans.find? (·.group == i)).map fun s => (s.first, s.last) := by
  obtain ⟨hopens, hcloses⟩ := h i
  rw [Pattern.spanOf?]
  cases hs : spans.find? (·.group == i) with
  | none =>
    rw [hs, Option.map_none, Option.map_eq_none_iff] at hopens
    rw [hopens]
    rfl
  | some s =>
    rw [hs] at hopens hcloses
    obtain ⟨o, ho, hfirst⟩ := Option.map_eq_some_iff.mp hopens
    obtain ⟨c, hc, hlast⟩ := Option.map_eq_some_iff.mp hcloses
    simp [ho, hc, hfirst, hlast]

/-! ## Ways through code -/

section

variable (program : Array Instr) (text : Array Char)

/-- Some way of the thread accepts after that many steps, with these marks. -/
inductive Ends : Nat → Thread → List Mark → Prop
  | accepts {t : Thread} (h : t.Accepts program) : Ends 0 t t.marks
  | step {n : Nat} {t u : Thread} {marks : List Mark} (hu : u ∈ successors program text t)
      (h : Ends n u marks) : Ends (n + 1) t marks

end

section

variable {program : Array Instr} {text : Array Char} {t u : Thread} {n p i : Nat}
  {marks found : List Mark}

theorem Leads.ends (h : Leads program text t u) (haccepts : u.Accepts program) :
    ∃ n, Ends program text n t u.marks := by
  induction h using Relation.ReflTransGen.head_induction_on with
  | refl => exact ⟨0, .accepts haccepts⟩
  | head hstep _ ih =>
    obtain ⟨n, hn⟩ := ih
    exact ⟨n + 1, .step hstep hn⟩

theorem Ends.marks_eq (h : Ends program text n t found) (haccepts : t.Accepts program) :
    found = t.marks := by
  cases h with
  | accepts => rfl
  | step hu => simp [successors_of_accepts haccepts] at hu

/-- A way that does not end here takes a step. -/
theorem Ends.next (h : Ends program text n t marks) (haccepts : ¬t.Accepts program) :
    ∃ k, n = k + 1 ∧ ∃ u ∈ successors program text t, Ends program text k u marks := by
  cases h with
  | accepts ht => exact absurd ht haccepts
  | step hu h => exact ⟨_, rfl, _, hu, h⟩

theorem Ends.next_one (h : Ends program text n t found) (haccepts : ¬t.Accepts program)
    (hsuccessors : successors program text t = [u]) :
    ∃ k, n = k + 1 ∧ Ends program text k u found := by
  obtain ⟨k, hk, v, hv, hway⟩ := h.next haccepts
  rw [hsuccessors] at hv
  exact ⟨k, hk, List.mem_singleton.mp hv ▸ hway⟩

theorem Ends.next_choose {start body exit : Nat} {greedy : Bool}
    (h : Ends program text n ⟨start, p, marks⟩ found)
    (hchoose : program[start]? = some (.choose greedy body exit)) :
    ∃ k, n = k + 1 ∧ (Ends program text k ⟨body, p, marks⟩ found ∨
      Ends program text k ⟨exit, p, marks⟩ found) := by
  have haccepts : ¬(⟨start, p, marks⟩ : Thread).Accepts program := by
    cases greedy <;> simp [Thread.Accepts, hchoose, Instr.choose]
  obtain ⟨k, hk, v, hv, hway⟩ := h.next haccepts
  refine ⟨k, hk, ?_⟩
  cases greedy with
  | true =>
    simp only [successors, hchoose, Instr.choose, if_true, List.mem_cons, List.not_mem_nil,
      or_false] at hv
    rcases hv with rfl | rfl
    · exact .inl hway
    · exact .inr hway
  | false =>
    simp only [successors, hchoose, Instr.choose, Bool.false_eq_true, if_false, List.mem_cons,
      List.not_mem_nil, or_false] at hv
    rcases hv with rfl | rfl
    · exact .inr hway
    · exact .inl hway

namespace Regex

theorem Nested.group {r : Regex} (h : (Regex.group i r).Nested) :
    r.Nested ∧ ∀ inner, ¬r.HasGroup i inner :=
  ⟨fun j body inner hbody => h j body inner (.inr hbody),
    fun inner => h i r inner (.inl ⟨rfl, rfl⟩)⟩

theorem Nested.seq {a b : Regex} (h : (Regex.seq a b).Nested) : a.Nested ∧ b.Nested :=
  ⟨fun j body inner hbody => h j body inner (.inl hbody),
    fun j body inner hbody => h j body inner (.inr hbody)⟩

theorem Nested.alt {a b : Regex} (h : (Regex.alt a b).Nested) : a.Nested ∧ b.Nested :=
  ⟨fun j body inner hbody => h j body inner (.inl hbody),
    fun j body inner hbody => h j body inner (.inr hbody)⟩

/-- A way through the code of an expression leaves it behind a match, whose spans are recorded. -/
theorem ends_code {r : Regex} (hnested : r.Nested) {start next : Nat}
    (hcode : Holds program start (r.code start next))
    (h : Ends program text n ⟨start, p, marks⟩ found) :
    ∃ q spans made, Matches text r p q spans ∧ Records spans made ∧
      ∃ m < n, Ends program text m ⟨next, q, made ++ marks⟩ found := by
  induction r generalizing start next n p marks with
  | empty =>
    have hinstr := hcode.head
    obtain ⟨k, rfl, hway⟩ := h.next_one (by simp [Thread.Accepts, hinstr])
      (by rw [successors, hinstr])
    exact ⟨p, [], [], .empty, .nil, k, Nat.lt_succ_self k, hway⟩
  | one set =>
    have hinstr := hcode.head
    obtain ⟨k, rfl, u, hu, hway⟩ := h.next (by simp [Thread.Accepts, hinstr])
    simp only [successors, hinstr] at hu
    split at hu
    next c hc =>
      split at hu
      next hset =>
        rw [List.mem_singleton.mp hu] at hway
        exact ⟨p + 1, [], [], .one hc hset, .nil, k, Nat.lt_succ_self k, hway⟩
      next => cases hu
    next => cases hu
  | assert a =>
    have hinstr := hcode.head
    obtain ⟨k, rfl, u, hu, hway⟩ := h.next (by simp [Thread.Accepts, hinstr])
    simp only [successors, hinstr] at hu
    split at hu
    next ha =>
      rw [List.mem_singleton.mp hu] at hway
      exact ⟨p, [], [], .assert ha, .nil, k, Nat.lt_succ_self k, hway⟩
    next => cases hu
  | group i r ih =>
    have hopen := hcode.head
    have hclose := (hcode.tail.right (r.length_code _ _)).head
    obtain ⟨hbody, hfree⟩ := hnested.group
    obtain ⟨k, rfl, hopened⟩ := h.next_one (by simp [Thread.Accepts, hopen])
      (by rw [successors, hopen])
    obtain ⟨q, spans, made, hmatch, hrecords, m, hm, hway⟩ := ih hbody hcode.tail.left hopened
    obtain ⟨m', rfl, hclosed⟩ := hway.next_one (by simp [Thread.Accepts, hclose])
      (by rw [successors, hclose])
    have hgroups : ∀ s ∈ spans, s.group ≠ i := by
      rintro s hs rfl
      obtain ⟨-, -, -, inner, hinner⟩ := hmatch.within.2 s hs
      exact hfree inner hinner
    refine ⟨q, _, _, .group hmatch, hrecords.group hgroups, m', by omega, ?_⟩
    simpa using hclosed
  | seq a b iha ihb =>
    obtain ⟨ha, hb⟩ := hnested.seq
    obtain ⟨m, spans, made, hmatch, hrecords, k, hk, hway⟩ := iha ha hcode.left h
    obtain ⟨q, spans', made', hmatch', hrecords', k', hk', hway⟩ :=
      ihb hb (hcode.right (a.length_code _ _)) hway
    rw [← List.append_assoc] at hway
    exact ⟨q, _, _, .seq hmatch hmatch', hrecords.append hrecords', k', by omega, hway⟩
  | alt a b iha ihb =>
    obtain ⟨ha, hb⟩ := hnested.alt
    have hsplit := hcode.head
    obtain ⟨k, rfl, u, hu, hway⟩ := h.next (by simp [Thread.Accepts, hsplit])
    simp only [successors, hsplit, List.mem_cons, List.not_mem_nil, or_false] at hu
    rcases hu with rfl | rfl
    · obtain ⟨q, spans, made, hmatch, hrecords, m, hm, hway⟩ := iha ha hcode.tail.left hway
      exact ⟨q, _, _, .left hmatch, hrecords, m, by omega, hway⟩
    · obtain ⟨q, spans, made, hmatch, hrecords, m, hm, hway⟩ :=
        ihb hb (hcode.tail.right (a.length_code _ _)) hway
      exact ⟨q, _, _, .right hmatch, hrecords, m, by omega, hway⟩
  | optional greedy r ih =>
    obtain ⟨k, rfl, hway | hway⟩ := h.next_choose hcode.head
    · obtain ⟨q, spans, made, hmatch, hrecords, m, hm, hway⟩ := ih hnested hcode.tail hway
      exact ⟨q, _, _, .present hmatch, hrecords, m, by omega, hway⟩
    · exact ⟨p, [], [], .absent, .nil, k, Nat.lt_succ_self k, hway⟩
  | many greedy r ih =>
    -- Behind each round the way stands at the choice again, with fewer steps to go.
    induction n using Nat.strongRecOn generalizing p marks with
    | ind n rounds =>
      obtain ⟨k, rfl, hway | hway⟩ := h.next_choose hcode.head
      · obtain ⟨m, spans, made, hmatch, hrecords, j, hj, hway⟩ := ih hnested hcode.tail hway
        obtain ⟨q, spans', made', hmatch', hrecords', j', hj', hway⟩ :=
          rounds j (by omega) hway
        rw [← List.append_assoc] at hway
        exact ⟨q, _, _, .round hmatch hmatch', hrecords.append hrecords', j', by omega, hway⟩
      · exact ⟨p, [], [], .leave, .nil, k, Nat.lt_succ_self k, hway⟩
  | loop greedy r ih =>
    have hchoose := (hcode.right (r.length_code _ _)).head
    induction n using Nat.strongRecOn generalizing p marks with
    | ind n rounds =>
      obtain ⟨m, spans, made, hmatch, hrecords, j, hj, hway⟩ := ih hnested hcode.left h
      obtain ⟨k, rfl, hway | hway⟩ := hway.next_choose hchoose
      · obtain ⟨q, spans', made', hmatch', hrecords', j', hj', hway⟩ :=
          rounds k (by omega) hway
        rw [← List.append_assoc] at hway
        exact ⟨q, _, _, .again hmatch hmatch', hrecords.append hrecords', j', by omega, hway⟩
      · exact ⟨m, _, _, .once hmatch, hrecords, k, by omega, hway⟩

end Regex
end
end Pattern
end FeatureScript
