import FeatureScript.Pattern.Expr
import FeatureScript.Proofs.Pattern.Match
import Mathlib.Data.List.Nodup

/-!
# FeatureScript.Proofs.Pattern.Groups

The groups of an expression.

`Expr.indices` lists the indices of the groups in the order in which the groups begin. The functions
that put expressions together keep the lists together as well. A choice whose branches begin alike
has what they share only once; it shares no group if no index is used twice (`Expr.indices_choice`).

Writing the counts out copies groups, with their bodies (`Expr.sublist_of_hasGroup`). So no group
stands in itself if no index is used twice (`Expr.nested_regex`), and the number of groups bounds
the indices just as before (`Expr.groups_regex_le_iff`).
-/

namespace FeatureScript
namespace Pattern
namespace Expr

/-- The indices of the groups, in the order in which they begin. A body that is repeated no time at
all has none. -/
def indices : Expr → List Nat
  | empty | text _ | one _ | assert _ => []
  | group i e => i :: e.indices
  | rounds _ e _ max => if max = some 0 then [] else e.indices
  | seq a b | alt a b => a.indices ++ b.indices

/-! ## Sequences -/

theorem indices_items (e : Expr) : e.items.flatMap indices = e.indices := by
  induction e with
  | seq a b _ ihb => rw [items, List.flatMap_cons, ihb, indices]
  | empty => rfl
  | _ => exact List.flatMap_singleton _ _

theorem indices_ofItems (es : List Expr) : (ofItems es).indices = es.flatMap indices := by
  induction es with
  | nil => rfl
  | cons e rest ih =>
    cases rest with
    | nil => exact (List.flatMap_singleton _ _).symm
    | cons e' rest => exact congrArg (e.indices ++ ·) ih

theorem indices_joinTexts (es : List Expr) :
    (joinTexts es).flatMap indices = es.flatMap indices := by
  induction es with
  | nil => rfl
  | cons e rest ih =>
    rw [List.flatMap_cons, ← ih]
    cases e with
    | text cs =>
      rw [joinTexts]
      split
      next ds more hmore => rw [hmore]; rfl
      next => rfl
    | _ => rfl

theorem indices_sequence (es : List Expr) : (sequence es).indices = es.flatMap indices := by
  rw [sequence, indices_ofItems, indices_joinTexts, List.flatMap_assoc]
  exact congrArg (List.flatMap · es) (funext indices_items)

/-! ## Sets, repetitions and choices -/

@[simp] theorem indices_ofSet (set : CharSet) : (ofSet set).indices = [] := by
  rw [ofSet]
  split <;> rfl

theorem indices_repeated (greedy : Bool) (e : Expr) (least : Nat) (most : Option Nat) :
    (repeated greedy e least most).indices = if most = some 0 then [] else e.indices := by
  have hbounds : ∀ least' most', (most' = some 0 ↔ most = some 0) →
      (if least' = 0 ∧ most' = some 0 then empty else if least' = 1 ∧ most' = some 1 then e
        else rounds greedy e least' most').indices = if most = some 0 then [] else e.indices := by
    intro least' most' hmost
    split
    next h => rw [if_pos (hmost.mp h.2), indices]
    next =>
      split
      next h => rw [if_neg fun h' => by simp [hmost.mpr h'] at h]
      next => simp only [indices, hmost]
  rw [repeated]
  by_cases hidle : e.idle
  · -- An idle body has one round at most, but it still has one if it has any.
    rw [if_pos hidle]
    refine hbounds _ _ ?_
    cases most with
    | none => decide
    | some n =>
      rw [Option.getD_some, Option.some.injEq, Option.some.injEq]
      show min n 1 = 0 ↔ n = 0
      omega
  · rw [if_neg hidle]
    exact hbounds least most Iff.rfl

theorem indices_branches (e : Expr) : e.branches.flatMap indices = e.indices := by
  induction e with
  | alt a b _ ihb => rw [branches, List.flatMap_cons, ihb, indices]
  | _ => exact List.flatMap_singleton _ _

theorem indices_ofBranches (es : List Expr) : (ofBranches es).indices = es.flatMap indices := by
  induction es with
  | nil => rfl
  | cons e rest ih =>
    cases rest with
    | nil => exact (List.flatMap_singleton _ _).symm
    | cons e' rest => exact congrArg (e.indices ++ ·) ih

theorem isSome_of_mapM {α : Type} {f : Expr → Option α} {es : List Expr} {found : List α}
    (h : es.mapM f = some found) : ∀ e ∈ es, (f e).isSome := by
  induction es generalizing found with
  | nil => exact nofun
  | cons e rest ih =>
    simp only [List.mapM_cons, Option.bind_eq_bind, Option.bind_eq_some_iff] at h
    obtain ⟨a, ha, as, has, -⟩ := h
    exact List.forall_mem_cons.mpr ⟨by rw [ha]; rfl, ih has⟩

/-- What comes to a set has no groups. -/
theorem indices_of_mergedSet? {es : List Expr} {set : CharSet} (h : mergedSet? es = some set) :
    es.flatMap indices = [] := by
  rw [List.flatMap_eq_nil_iff]
  intro e he
  rw [mergedSet?] at h
  split at h
  next cs hcs =>
    have hsome := isSome_of_mapM hcs e he
    cases e <;> first | rfl | simp [char?] at hsome
  next =>
    obtain ⟨sets, hsets, -⟩ := Option.map_eq_some_iff.mp h
    have hsome := isSome_of_mapM hsets e he
    cases e <;> first | rfl | simp [set?] at hsome

theorem indices_choiceOf (es : List Expr) : (choiceOf es).indices = es.flatMap indices := by
  unfold choiceOf
  split
  next => exact indices_ofBranches _
  next => exact indices_ofBranches _
  next =>
    split
    next set hset => rw [indices_ofSet, indices_of_mergedSet? hset]
    next => exact indices_ofBranches _

theorem common_prefix (as bs : List Expr) : common as bs <+: as ∧ common as bs <+: bs := by
  induction as generalizing bs with
  | nil => exact ⟨List.nil_prefix, List.nil_prefix⟩
  | cons a as ih =>
    cases bs with
    | nil => exact ⟨List.nil_prefix, List.nil_prefix⟩
    | cons b bs =>
      rw [common]
      split
      next hab =>
        subst hab
        obtain ⟨has, hbs⟩ := ih bs
        exact ⟨(List.prefix_cons_inj a).mpr has, (List.prefix_cons_inj a).mpr hbs⟩
      next => exact ⟨List.nil_prefix, List.nil_prefix⟩

/-- Each of the branches begins with what is common to them. -/
theorem commonItems_prefix (es : List Expr) : ∀ e ∈ es, commonItems es <+: e.items := by
  have hfold : ∀ (rest : List Expr) (found : List Expr),
      rest.foldl (fun found e => common found e.items) found <+: found ∧
        ∀ e ∈ rest, rest.foldl (fun found e => common found e.items) found <+: e.items := by
    intro rest
    induction rest with
    | nil => exact fun found => ⟨List.prefix_rfl, nofun⟩
    | cons e rest ih =>
      intro found
      obtain ⟨hfound, hrest⟩ := ih (common found e.items)
      obtain ⟨hleft, hright⟩ := common_prefix found e.items
      exact ⟨hfound.trans hleft, List.forall_mem_cons.mpr ⟨hfound.trans hright, hrest⟩⟩
  intro e he
  unfold commonItems
  split
  next => exact List.nil_prefix
  next => exact List.nil_prefix
  next first rest _ =>
    split
    next =>
      obtain ⟨hfirst, hrest⟩ := hfold rest first.items
      rcases List.mem_cons.mp he with rfl | he
      · exact hfirst
      · exact hrest e he
    next => exact List.nil_prefix

/-- Where no index is used twice, no group is common to all branches. -/
theorem indices_commonItems {es : List Expr} (h : (es.flatMap indices).Nodup) :
    (commonItems es).flatMap indices = [] := by
  match es with
  | [] => rfl
  | [_] => rfl
  | a :: b :: rest =>
    have hin : ∀ e ∈ a :: b :: rest, ∀ i ∈ (commonItems (a :: b :: rest)).flatMap indices,
        i ∈ e.indices := by
      intro e he i hi
      obtain ⟨tail, htail⟩ := commonItems_prefix _ e he
      rw [← indices_items, ← htail, List.flatMap_append]
      exact List.mem_append_left _ hi
    rw [List.flatMap_cons, List.flatMap_cons] at h
    refine List.eq_nil_iff_forall_not_mem.mpr fun i hi => ?_
    exact List.disjoint_of_nodup_append h (hin a (by simp) i hi)
      (List.mem_append_left _ (hin b (by simp) i hi))

/-- A choice has the groups of its branches, if no index is used twice. -/
theorem indices_choice {es : List Expr} (h : (es.flatMap indices).Nodup) :
    (choice es).indices = es.flatMap indices := by
  have hbranches : (es.flatMap branches).flatMap indices = es.flatMap indices := by
    rw [List.flatMap_assoc]
    exact congrArg (List.flatMap · es) (funext indices_branches)
  rw [← hbranches] at h ⊢
  rw [choice]
  generalize es.flatMap branches = es at h ⊢
  split
  next => exact indices_choiceOf es
  next =>
    have hshared := indices_commonItems h
    have hrest : ∀ e ∈ es,
        (sequence (e.items.drop (commonItems es).length)).indices = e.indices := by
      intro e he
      obtain ⟨rest, hrest⟩ := commonItems_prefix es e he
      rw [indices_sequence, ← indices_items e, ← hrest, List.drop_left, List.flatMap_append,
        hshared, List.nil_append]
    rw [indices_sequence, List.flatMap_append, hshared, List.nil_append, List.flatMap_singleton,
      indices_choiceOf, List.flatMap_assoc, List.flatMap_map]
    refine List.flatMap_congr fun e he => ?_
    rw [indices_branches, hrest e he]

end Expr

/-! ## Counts written out -/

namespace Regex

variable {r body : Regex} {i : Nat} {greedy : Bool}

theorem hasGroup_seqAll (rs : List Regex) :
    (seqAll rs).HasGroup i body ↔ ∃ r ∈ rs, r.HasGroup i body := by
  induction rs with
  | nil => simp [seqAll, HasGroup]
  | cons r rest ih =>
    cases rest with
    | nil => simp [seqAll]
    | cons r' rest => simp [seqAll, HasGroup, ih]

theorem hasGroup_power (n : Nat) :
    (power r n).HasGroup i body ↔ n ≠ 0 ∧ r.HasGroup i body := by
  induction n with
  | zero => simp [power, HasGroup]
  | succ n ih =>
    cases n with
    | zero => simp [power]
    | succ n => simp [power, HasGroup, ih]

theorem hasGroup_upTo (n : Nat) :
    (upTo greedy r n).HasGroup i body ↔ n ≠ 0 ∧ r.HasGroup i body := by
  induction n with
  | zero => simp [upTo, HasGroup]
  | succ n ih =>
    cases n with
    | zero => simp [upTo, HasGroup]
    | succ n => simp [upTo, HasGroup, ih]

theorem hasGroup_atLeast (n : Nat) :
    (atLeast greedy r n).HasGroup i body ↔ r.HasGroup i body := by
  match n with
  | 0 =>
    rw [atLeast, star]
    split <;> simp [HasGroup]
  | 1 => simp [atLeast, HasGroup]
  | n + 2 => simp [atLeast, HasGroup, hasGroup_power]

/-- A repetition has the groups of its body, unless there is no round. -/
theorem hasGroup_repeated (least : Nat) (most : Option Nat) :
    (repeated greedy r least most).HasGroup i body ↔ most ≠ some 0 ∧ r.HasGroup i body := by
  cases most with
  | none => simp [repeated, hasGroup_atLeast]
  | some n =>
    rw [repeated]
    split
    next hn => simp [HasGroup, hn]
    next hn =>
      split
      next => simp [hasGroup_upTo]
      next hleast =>
        split
        next => simp [hasGroup_power, hleast, hn]
        next hmore => simp [HasGroup, hasGroup_power, hasGroup_upTo, hleast, hmore, hn]

end Regex

namespace Expr

variable {e : Expr} {body : Regex} {i : Nat}

/-- Each group of the expression as it is written out comes from a group of the expression. -/
theorem sublist_of_hasGroup (h : e.regex.HasGroup i body) :
    ∃ inner : Expr, body = inner.regex ∧ (i :: inner.indices).Sublist e.indices := by
  induction e with
  | empty | one | assert => exact h.elim
  | text cs =>
    obtain ⟨r, hr, hgroup⟩ := (Regex.hasGroup_seqAll _).mp h
    obtain ⟨c, -, rfl⟩ := List.mem_map.mp hr
    exact hgroup.elim
  | group j e ih =>
    rcases h with ⟨rfl, rfl⟩ | h
    · exact ⟨e, rfl, .refl _⟩
    · obtain ⟨inner, hinner, hsub⟩ := ih h
      exact ⟨inner, hinner, hsub.cons j⟩
  | rounds greedy e least most ih =>
    obtain ⟨hmost, h⟩ := (Regex.hasGroup_repeated least most).mp h
    rw [indices, if_neg hmost]
    exact ih h
  | seq a b iha ihb | alt a b iha ihb =>
    rcases h with h | h
    · obtain ⟨inner, hinner, hsub⟩ := iha h
      exact ⟨inner, hinner, hsub.trans (List.sublist_append_left _ _)⟩
    · obtain ⟨inner, hinner, hsub⟩ := ihb h
      exact ⟨inner, hinner, hsub.trans (List.sublist_append_right _ _)⟩

/-- The indices are those of the groups as the expression is written out. -/
theorem mem_indices_iff : i ∈ e.indices ↔ ∃ body, e.regex.HasGroup i body := by
  refine ⟨fun h => ?_, fun ⟨body, h⟩ => ?_⟩
  · induction e with
    | empty | one | assert | text => cases h
    | group j e ih =>
      rcases List.mem_cons.mp h with rfl | h
      · exact ⟨e.regex, .inl ⟨rfl, rfl⟩⟩
      · obtain ⟨body, hbody⟩ := ih h
        exact ⟨body, .inr hbody⟩
    | rounds greedy e least most ih =>
      rw [indices] at h
      split at h
      next => cases h
      next hmost =>
        obtain ⟨body, hbody⟩ := ih h
        exact ⟨body, (Regex.hasGroup_repeated least most).mpr ⟨hmost, hbody⟩⟩
    | seq a b iha ihb | alt a b iha ihb =>
      rcases List.mem_append.mp h with h | h
      · obtain ⟨body, hbody⟩ := iha h
        exact ⟨body, .inl hbody⟩
      · obtain ⟨body, hbody⟩ := ihb h
        exact ⟨body, .inr hbody⟩
  · obtain ⟨inner, -, hsub⟩ := sublist_of_hasGroup h
    exact hsub.subset List.mem_cons_self

theorem nested_regex (h : e.indices.Nodup) : e.regex.Nested := by
  intro i body found hbody hfound
  obtain ⟨inner, rfl, hsub⟩ := sublist_of_hasGroup hbody
  exact (List.nodup_cons.mp (h.sublist hsub)).1 (mem_indices_iff.mpr ⟨found, hfound⟩)

theorem groups_regex_le_iff {n : Nat} : e.regex.groups ≤ n ↔ ∀ i ∈ e.indices, i ≤ n := by
  constructor
  · intro h i hi
    obtain ⟨body, hbody⟩ := mem_indices_iff.mp hi
    exact Nat.le_trans hbody.le_groups h
  · intro h
    rcases Nat.eq_zero_or_pos e.regex.groups with hzero | hpos
    · rw [hzero]
      exact Nat.zero_le n
    · exact h _ (mem_indices_iff.mpr (Regex.exists_hasGroup_groups hpos))

end Expr
end Pattern
end FeatureScript
