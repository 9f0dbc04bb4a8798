import FeatureScript.Proofs.Pattern.Preference

/-!
# FeatureScript.Proofs.Pattern.Backtrack

Searching is backtracking.

`Regex.prefer` follows an expression by itself: the first alternative before the second, one more
round of a greedy loop before leaving it, and what comes after the expression as a continuation.
Where loops have bodies that always consume, a thread at the code of an expression comes to what
`prefer` gives (`prefer_result`), so a search finds what backtracking finds from the first start
that leads to anything (`search_eq_prefer`).
-/

namespace FeatureScript
namespace Pattern

/-! ## Backtracking -/

/-- Goes on from a place: what is left of the text, its position and the marks made so far. -/
abbrev Matcher := List Char → Nat → List Mark → Option (List Mark)

namespace Regex

/-- The body before the exit in a greedy loop, and after it in a lazy one. -/
def choose (greedy : Bool) (body exit : Option (List Mark)) : Option (List Mark) :=
  if greedy then body.or exit else exit.or body

/-- Up to `n` rounds of a body. -/
def rounds (greedy : Bool) (body : Matcher → Matcher) (k : Matcher) : Nat → Matcher
  | 0 => k
  | n + 1 => fun rest p marks =>
    choose greedy (body (rounds greedy body k n) rest p marks) (k rest p marks)

/-- Matches the expression and goes on with `k`. A loop has more rounds to spend than characters. -/
def prefer (text : Array Char) : Regex → Matcher → Matcher
  | empty, k => k
  | one set, k => fun rest p marks =>
    match rest with
    | [] => none
    | c :: rest => if set.has c then k rest (p + 1) marks else none
  | assert a, k => fun rest p marks => if a.holds text p then k rest p marks else none
  | group i r, k => fun rest p marks =>
    r.prefer text (fun rest p marks => k rest p (⟨i, false, p⟩ :: marks)) rest p
      (⟨i, true, p⟩ :: marks)
  | seq a b, k => a.prefer text (b.prefer text k)
  | alt a b, k => fun rest p marks =>
    (a.prefer text k rest p marks).or (b.prefer text k rest p marks)
  | optional greedy r, k => fun rest p marks =>
    choose greedy (r.prefer text k rest p marks) (k rest p marks)
  | many greedy r, k => fun rest => rounds greedy (r.prefer text) k (rest.length + 1) rest
  | loop greedy r, k => fun rest =>
    r.prefer text (rounds greedy (r.prefer text) k (rest.length + 1)) rest

/-- The bodies of all loops consume. -/
def consuming : Regex → Bool
  | empty | one _ | assert _ => true
  | group _ r | optional _ r => r.consuming
  | seq a b | alt a b => a.consuming && b.consuming
  | many _ r | loop _ r => !r.nullable && r.consuming

end Regex

/-! ## Results of threads -/

section

variable {program : Array Instr} {text : Array Char} {t u v : Thread} {o : Option (List Mark)}

/-- What a thread comes to: the marks of its preferred way, or nothing if it is barren. -/
def Result (program : Array Instr) (text : Array Char) (t : Thread) : Option (List Mark) → Prop
  | none => Barren program text t
  | some marks => ∃ n, First program text n t marks

theorem Result.of_none (haccepts : ¬t.Accepts program) (h : successors program text t = []) :
    Result program text t none :=
  .of_successors haccepts fun u hu => by rw [h] at hu; cases hu

theorem Result.of_one (haccepts : ¬t.Accepts program) (h : successors program text t = [u])
    (hu : Result program text u o) : Result program text t o := by
  cases o with
  | some marks =>
    obtain ⟨n, hn⟩ := hu
    have hfirst : successors program text t = [] ++ u :: [] := h
    exact ⟨n + 1, .step hfirst (by simp) hn⟩
  | none => exact .of_successors haccepts (by rw [h]; exact List.forall_mem_singleton.mpr hu)

theorem Result.of_two {a b : Option (List Mark)} (haccepts : ¬t.Accepts program)
    (h : successors program text t = [u, v]) (hu : Result program text u a)
    (hv : Result program text v b) : Result program text t (a.or b) := by
  cases a with
  | some marks =>
    obtain ⟨n, hn⟩ := hu
    have hfirst : successors program text t = [] ++ u :: [v] := h
    exact ⟨n + 1, .step hfirst (by simp) hn⟩
  | none =>
    cases b with
    | some marks =>
      obtain ⟨n, hn⟩ := hv
      have hsecond : successors program text t = [u] ++ v :: [] := h
      exact ⟨n + 1, .step hsecond (List.forall_mem_singleton.mpr hu) hn⟩
    | none =>
      refine .of_successors haccepts ?_
      rw [h]
      exact List.forall_mem_cons.mpr ⟨hu, List.forall_mem_singleton.mpr hv⟩

theorem Result.choose {start body exit p : Nat} {marks : List Mark} {greedy : Bool}
    {a b : Option (List Mark)} (h : program[start]? = some (.choose greedy body exit))
    (ha : Result program text ⟨body, p, marks⟩ a) (hb : Result program text ⟨exit, p, marks⟩ b) :
    Result program text ⟨start, p, marks⟩ (Regex.choose greedy a b) := by
  cases greedy with
  | true =>
    exact .of_two (by simp [Thread.Accepts, h, Instr.choose])
      (by simp [successors, h, Instr.choose]) ha hb
  | false =>
    exact .of_two (by simp [Thread.Accepts, h, Instr.choose])
      (by simp [successors, h, Instr.choose]) hb ha

end

/-! ## Code in a program -/

/-- The program has the code at the address. -/
def Holds (program : Array Instr) (start : Nat) (code : List Instr) : Prop :=
  ∀ (i : Nat) (instr : Instr), code[i]? = some instr → program[start + i]? = some instr

section

variable {program : Array Instr} {start : Nat} {instr : Instr} {code more : List Instr}

theorem Holds.head (h : Holds program start (instr :: code)) : program[start]? = some instr :=
  h 0 instr rfl

theorem Holds.tail (h : Holds program start (instr :: code)) : Holds program (start + 1) code := by
  intro i found hfound
  rw [Nat.add_assoc, Nat.add_comm 1 i]
  exact h (i + 1) found hfound

theorem Holds.left (h : Holds program start (code ++ more)) : Holds program start code := by
  intro i found hfound
  have hi := (List.getElem?_eq_some_iff.mp hfound).1
  exact h i found (by rw [List.getElem?_append_left hi, hfound])

theorem Holds.right {n : Nat} (h : Holds program start (code ++ more)) (hn : code.length = n) :
    Holds program (start + n) more := by
  intro i found hfound
  rw [Nat.add_assoc, ← hn]
  refine h (code.length + i) found ?_
  rw [List.getElem?_append_right (Nat.le_add_right _ _), Nat.add_sub_cancel_left, hfound]

theorem Regex.program_holds (r : Regex) :
    Holds r.program 0 (r.code 0 r.size) ∧ r.program[r.size]? = some .accept := by
  have hall : Holds r.program 0 (r.code 0 r.size ++ [.accept]) := by
    intro i found hfound
    rw [Nat.zero_add, program, List.getElem?_toArray, hfound]
  refine ⟨hall.left, ?_⟩
  have haccept := (hall.right (r.length_code 0 r.size)).head
  rwa [Nat.zero_add] at haccept

end

/-! ## What is left of a text -/

/-- This is left of the text at the position. -/
structure Left (text : Array Char) (rest : List Char) (p : Nat) : Prop where
  drop : text.toList.drop p = rest
  size : p + rest.length = text.size

section

variable {text : Array Char} {rest : List Char} {p : Nat} {c : Char}

theorem Left.getElem? (h : Left text (c :: rest) p) : text[p]? = some c := by
  have hdrop := congrArg (·[0]?) h.drop
  simpa using hdrop

theorem Left.tail (h : Left text (c :: rest) p) : Left text rest (p + 1) where
  drop := by rw [← List.drop_drop, h.drop]; rfl
  size := by have hsize := h.size; rw [List.length_cons] at hsize; omega

theorem Left.append {front : List Char} (h : Left text (front ++ rest) p) :
    Left text rest (p + front.length) where
  drop := by rw [← List.drop_drop, h.drop, List.drop_left]
  size := by have hsize := h.size; rw [List.length_append] at hsize; omega

theorem Left.getElem?_nil (h : Left text [] p) : text[p]? = none :=
  Array.getElem?_eq_none (Nat.le_of_eq h.size.symm)

end

/-! ## Expressions -/

/-- Wherever fewer than `n` characters are left, a thread at the state comes to what the matcher
gives. -/
def Follows (program : Array Instr) (text : Array Char) (state : Nat) (k : Matcher) (n : Nat) :
    Prop :=
  ∀ ⦃rest p marks⦄, Left text rest p → rest.length < n →
    Result program text ⟨state, p, marks⟩ (k rest p marks)

/-- A bound for what is left behind an expression: one less if the expression consumes. -/
def Regex.slack (r : Regex) (n : Nat) : Nat := if r.nullable then n else n - 1

theorem Regex.slack_le (r : Regex) (n : Nat) : r.slack n ≤ n := by
  rw [slack]
  split <;> omega

theorem Regex.slack_of_not_nullable {r : Regex} (h : r.nullable = false) (n : Nat) :
    r.slack n = n - 1 := by
  rw [slack, h]
  rfl

theorem Regex.slack_seq (a b : Regex) (n : Nat) : b.slack (a.slack n) ≤ (seq a b).slack n := by
  by_cases ha : a.nullable <;> by_cases hb : b.nullable <;> simp [slack, nullable, ha, hb]

theorem Regex.slack_alt (a b : Regex) (n : Nat) :
    a.slack n ≤ (alt a b).slack n ∧ b.slack n ≤ (alt a b).slack n := by
  by_cases ha : a.nullable <;> by_cases hb : b.nullable <;> simp [slack, nullable, ha, hb]

section

variable {program : Array Instr} {text : Array Char} {k : Matcher}

theorem Follows.mono {state m n : Nat} (h : Follows program text state k n) (hmn : m ≤ n) :
    Follows program text state k m := fun _ _ _ hleft hlt => h hleft (Nat.lt_of_lt_of_le hlt hmn)

/-- The rounds of a loop whose body consumes. -/
theorem rounds_follows {entry start next b m n : Nat} {greedy : Bool} {body : Matcher → Matcher}
    (hchoose : program[entry]? = some (.choose greedy start next))
    (hbody : ∀ k n, Follows program text entry k n → Follows program text start (body k) (n + 1))
    (hk : Follows program text next k n) (hm : b ≤ m) (hn : b ≤ n) :
    Follows program text entry (Regex.rounds greedy body k m) b := by
  -- Each round leaves fewer characters, so `m` rounds are enough for fewer than `m` of them.
  induction m generalizing b with
  | zero =>
    intro rest p marks _ hlt
    omega
  | succ m ih =>
    intro rest p marks hleft hlt
    have hrounds : Follows program text entry (Regex.rounds greedy body k m) rest.length :=
      ih (by omega) (by omega)
    exact .choose hchoose (hbody _ rest.length hrounds hleft (Nat.lt_succ_self _))
      (hk hleft (by omega))

/-- A thread at the code of an expression comes to what following the expression gives. -/
theorem prefer_follows (r : Regex) {start next n : Nat} (hconsuming : r.consuming)
    (hcode : Holds program start (r.code start next))
    (hk : Follows program text next k (r.slack n)) :
    Follows program text start (r.prefer text k) n := by
  induction r generalizing start next n k with
  | empty =>
    intro rest p marks hleft hlt
    have hinstr := hcode.head
    exact .of_one (by simp [Thread.Accepts, hinstr]) (by simp [successors, hinstr]) (hk hleft hlt)
  | one set =>
    intro rest p marks hleft hlt
    have hinstr := hcode.head
    have haccepts : ¬(⟨start, p, marks⟩ : Thread).Accepts program := by
      simp [Thread.Accepts, hinstr]
    cases rest with
    | nil => exact .of_none haccepts (by simp [successors, hinstr, hleft.getElem?_nil])
    | cons c rest =>
      have hc := hleft.getElem?
      show Result program text _ (if set.has c then _ else none)
      split
      next hset =>
        refine .of_one haccepts (by simp [successors, hinstr, hc, hset]) (hk hleft.tail ?_)
        rw [List.length_cons] at hlt
        exact Nat.lt_sub_of_add_lt hlt
      next hset => exact .of_none haccepts (by simp [successors, hinstr, hc, hset])
  | assert a =>
    intro rest p marks hleft hlt
    have hinstr := hcode.head
    have haccepts : ¬(⟨start, p, marks⟩ : Thread).Accepts program := by
      simp [Thread.Accepts, hinstr]
    show Result program text _ (if a.holds text p then _ else none)
    split
    next ha => exact .of_one haccepts (by simp [successors, hinstr, ha]) (hk hleft hlt)
    next ha => exact .of_none haccepts (by simp [successors, hinstr, ha])
  | group i r ih =>
    have hopen := hcode.head
    have hclose := (hcode.tail.right (r.length_code _ _)).head
    have hclosed : Follows program text (start + 1 + r.size)
        (fun rest p marks => k rest p (⟨i, false, p⟩ :: marks)) (r.slack n) := by
      intro rest p marks hleft hlt
      exact .of_one (by simp [Thread.Accepts, hclose]) (by rw [successors, hclose]) (hk hleft hlt)
    intro rest p marks hleft hlt
    exact .of_one (by simp [Thread.Accepts, hopen]) (by rw [successors, hopen])
      (ih hconsuming hcode.tail.left hclosed hleft hlt)
  | seq a b iha ihb =>
    -- From the back: what follows `a` is the code of `b`, and what follows that is `k`.
    rw [Regex.consuming, Bool.and_eq_true] at hconsuming
    exact iha hconsuming.1 hcode.left
      (ihb hconsuming.2 (hcode.right (a.length_code _ _)) (hk.mono (a.slack_seq b n)))
  | alt a b iha ihb =>
    rw [Regex.consuming, Bool.and_eq_true] at hconsuming
    obtain ⟨ha, hb⟩ := a.slack_alt b n
    have hsplit := hcode.head
    intro rest p marks hleft hlt
    exact .of_two (by simp [Thread.Accepts, hsplit]) (by rw [successors, hsplit])
      (iha hconsuming.1 hcode.tail.left (hk.mono ha) hleft hlt)
      (ihb hconsuming.2 (hcode.tail.right (a.length_code _ _)) (hk.mono hb) hleft hlt)
  | optional greedy r ih =>
    intro rest p marks hleft hlt
    exact .choose hcode.head (ih hconsuming hcode.tail (hk.mono (r.slack_le n)) hleft hlt)
      (hk hleft hlt)
  | many greedy r ih =>
    rw [Regex.consuming, Bool.and_eq_true, Bool.not_eq_true'] at hconsuming
    have hbody : ∀ k n, Follows program text start k n →
        Follows program text (start + 1) (r.prefer text k) (n + 1) := fun k n hk =>
      ih hconsuming.2 hcode.tail (by rwa [Regex.slack_of_not_nullable hconsuming.1])
    intro rest p marks hleft hlt
    exact rounds_follows hcode.head hbody hk (Nat.le_refl _) hlt hleft (Nat.lt_succ_self _)
  | loop greedy r ih =>
    -- The body comes first here, and the choice stands behind it.
    rw [Regex.consuming, Bool.and_eq_true, Bool.not_eq_true'] at hconsuming
    have hbody : ∀ k n, Follows program text (start + r.size) k n →
        Follows program text start (r.prefer text k) (n + 1) := fun k n hk =>
      ih hconsuming.2 hcode.left (by rwa [Regex.slack_of_not_nullable hconsuming.1])
    have hchoose := (hcode.right (r.length_code _ _)).head
    have hloop : (Regex.loop greedy r).nullable = false := hconsuming.1
    rw [Regex.slack_of_not_nullable hloop] at hk
    intro rest p marks hleft hlt
    exact hbody _ rest.length (rounds_follows hchoose hbody hk (Nat.le_succ _) (by omega)) hleft
      (Nat.lt_succ_self _)

end

/-- Every match of an expression that a text is searched for goes on to acceptance. -/
theorem prefer_result {r : Regex} (hconsuming : r.consuming) {text : Array Char} {start : Nat}
    (hstart : start ≤ text.size) :
    Result r.program text ⟨0, start, []⟩
      (r.prefer text (fun _ _ marks => some marks) (text.toList.drop start) start []) := by
  have hleft : Left text (text.toList.drop start) start :=
    ⟨rfl, by rw [List.length_drop, Array.length_toList]; omega⟩
  obtain ⟨hcode, haccept⟩ := r.program_holds
  have hend : ∀ n, Follows r.program text r.size (fun _ _ marks => some marks) n :=
    fun n _ _ _ _ _ => ⟨0, .accepts haccept⟩
  exact prefer_follows r hconsuming hcode (hend _) hleft (Nat.lt_succ_self _)

/-- What a search finds is what backtracking finds from the first start that leads to anything. -/
theorem search_eq_prefer {r : Regex} (hconsuming : r.consuming) (text : Array Char) :
    search r.program text = (List.range (text.size + 1)).findSome? fun start =>
      r.prefer text (fun _ _ marks => some marks) (text.toList.drop start) start [] := by
  have hsize : 0 < r.program.size := by rw [r.size_program]; exact Nat.succ_pos _
  cases hfound : (List.range (text.size + 1)).findSome? fun start =>
      r.prefer text (fun _ _ marks => some marks) (text.toList.drop start) start [] with
  | none =>
    refine search_of_barren fun start hstart => ?_
    have hnone := List.findSome?_eq_none_iff.mp hfound start
      (List.mem_range.mpr (Nat.lt_succ_of_le hstart))
    have hresult := prefer_result hconsuming hstart
    rwa [hnone] at hresult
  | some marks =>
    obtain ⟨before, start, after, hrange, hsome, hbefore⟩ := List.findSome?_eq_some_iff.mp hfound
    rw [List.range_eq_range', List.range'_eq_append_iff] at hrange
    obtain ⟨n, hn, rfl, hafter⟩ := hrange
    have hstart : start = n ∧ n ≤ text.size := by
      obtain ⟨hhead, hlength, -⟩ := List.range'_eq_cons_iff.mp hafter.symm
      omega
    obtain ⟨rfl, hle⟩ := hstart
    have hresult := prefer_result hconsuming hle
    rw [hsome] at hresult
    obtain ⟨n, hway⟩ := hresult
    refine search_of_first r.program_closed hsize hle (fun i hi => ?_) hway
    have hbarren := prefer_result hconsuming (Nat.le_of_lt (Nat.lt_of_lt_of_le hi hle))
    rwa [hbefore i (List.mem_range'_1.mpr ⟨Nat.zero_le i, by omega⟩)] at hbarren

end Pattern
end FeatureScript
