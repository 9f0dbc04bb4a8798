import FeatureScript.Pattern.Reader
import FeatureScript.Proofs.Pattern.Groups

/-!
# FeatureScript.Proofs.Pattern.Numbering

How the groups of a pattern are numbered.

A reader has groups in its open groups and in what it reads now, in the order in which they begin
(`State.indices`). A round keeps them, or opens the next one behind them, or drops some: this is
what a count that allows no round does (`step_indices`). So the groups of a pattern begin in the
order of their indices, and are numbered from one without gaps unless a count is zero
(`read_indices`).
-/

namespace FeatureScript
namespace Pattern
namespace Reader

/-! ## Pieces and branches -/

theorem Piece.indices_sequence (pieces : List Piece) :
    (Piece.sequence pieces).expr.indices = pieces.flatMap (·.expr.indices) := by
  unfold Piece.sequence
  split
  next => rfl
  next => exact (List.flatMap_singleton _ _).symm
  next => rw [Expr.indices_sequence, List.flatMap_map]

theorem Piece.indices_choice {first : Piece} {rest : List Piece}
    (h : ((first :: rest).flatMap (·.expr.indices)).Nodup) :
    (Piece.choice first rest).expr.indices = (first :: rest).flatMap (·.expr.indices) := by
  unfold Piece.choice
  split
  next => exact (List.flatMap_singleton _ _).symm
  next =>
    rw [← List.flatMap_map (Piece.expr) Expr.indices] at h ⊢
    exact Expr.indices_choice h

def Part.indices (p : Part) : List Nat := p.value.expr.indices

def Branches.indices (b : Branches) : List Nat :=
  b.done.reverse.flatMap (·.expr.indices) ++ b.parts.reverse.flatMap Part.indices

namespace Branches

theorem indices_last (b : Branches) :
    b.last.expr.indices = b.parts.reverse.flatMap Part.indices := by
  rw [last, Piece.indices_sequence, List.flatMap_map]
  rfl

theorem indices_push (b : Branches) (p : Part) : (b.push p).indices = b.indices ++ p.indices := by
  simp [push, indices, List.flatMap_append]

theorem indices_bar (b : Branches) : b.bar.indices = b.indices := by
  simp [bar, indices, List.flatMap_append, indices_last]

/-- The branches as one expression have the same groups, if no index is used twice. -/
theorem indices_value {b : Branches} (h : b.indices.Nodup) :
    b.value.expr.indices = b.indices := by
  have hpieces : (b.done.reverse ++ [b.last]).flatMap (·.expr.indices) = b.indices := by
    rw [List.flatMap_append, List.flatMap_singleton, indices_last, indices]
  rw [← hpieces] at h ⊢
  unfold value
  split
  next hdone => rw [hdone, List.nil_append, List.flatMap_singleton]
  next first rest hdone =>
    rw [hdone] at h ⊢
    exact Piece.indices_choice h

end Branches

/-! ## States -/

/-- The groups in what was read before an open group, and the group itself. -/
def OpenGroup.indices (g : OpenGroup) : List Nat := g.around.indices ++ g.index.toList

namespace State

/-- The indices of the groups read so far, in the order in which they begin. -/
def indices (s : State) : List Nat := s.outer.reverse.flatMap OpenGroup.indices ++ s.here.indices

theorem indices_push {s : State} {p : Piece} (h : p.expr.indices = []) :
    (s.push p).indices = s.indices := by
  have hpart : (Part.piece p).indices = [] := h
  simp only [push, indices, Branches.indices_push, hpart, List.append_nil]

theorem indices_addSet (s : State) (set : CharSet) (depth : Nat) :
    (s.addSet set depth).indices = s.indices := indices_push (Expr.indices_ofSet set)

theorem indices_addAssertion (s : State) (a : Assertion) :
    (s.addAssertion a).indices = s.indices := indices_push rfl

theorem indices_enter (s : State) (index : Option Nat) (flags : Flags) :
    (s.enter index flags).indices = s.indices ++ index.toList := by
  simp [enter, indices, OpenGroup.indices, Branches.indices]

theorem indices_enterCapture (s : State) :
    s.enterCapture.indices = s.indices ++ [s.groups + 1] :=
  s.indices_enter (some (s.groups + 1)) s.flags

end State

/-! ## Rounds -/

/-- The reader has the same groups as before, or the next one behind them. -/
def Extends (s s' : State) : Prop :=
  (s'.groups = s.groups ∧ s'.indices = s.indices) ∨
    (s'.groups = s.groups + 1 ∧ s'.indices = s.indices ++ [s.groups + 1])

section

variable {s s' : State} {c : Char} {cs rest : List Char}

theorem openGroup_extends (h : openGroup s cs = .ok (s', rest)) : Extends s s' := by
  have hnamed : ∀ cs, (groupName s.names cs).map (fun found =>
      ({ s.enterCapture with names := found.1 :: s.names }, found.2)) = .ok (s', rest) →
      Extends s s' := by
    intro cs h
    cases hname : groupName s.names cs with
    | error e => rw [hname] at h; cases h
    | ok found =>
      rw [hname] at h
      cases h
      exact .inr ⟨rfl, s.indices_enterCapture⟩
  unfold openGroup at h
  split at h
  case h_1 | h_2 | h_3 | h_4 => cases h
  case h_5 => exact hnamed _ h
  case h_6 => exact hnamed _ h
  case h_7 =>
    split at h
    next => cases h
    next flags any rest' _ =>
      split at h
      next =>
        split at h
        next =>
          cases h
          refine .inl ⟨rfl, ?_⟩
          simp [State.indices, Branches.indices_push, Part.indices, Part.value, Piece.empty,
            Expr.indices]
        next => cases h
      next =>
        cases h
        exact .inl ⟨rfl, (s.indices_enter none flags).trans (List.append_nil _)⟩
      next => cases h
  case h_8 =>
    cases h
    exact .inr ⟨rfl, s.indices_enterCapture⟩

theorem closeGroup_indices (h : closeGroup s = .ok s') (hnodup : s.indices.Nodup) :
    s'.groups = s.groups ∧ s'.indices = s.indices := by
  unfold closeGroup at h
  split at h
  next => cases h
  next g outer houter =>
    cases h
    refine ⟨rfl, ?_⟩
    have hbody : s.here.value.expr.indices = s.here.indices :=
      Branches.indices_value (hnodup.sublist (List.sublist_append_right _ _))
    cases hindex : g.index <;>
      simp [State.indices, houter, Branches.indices_push, Part.indices, Part.value, Expr.indices,
        hbody, OpenGroup.indices, hindex]

theorem repeatLast_indices {least : Nat} {most : Option Nat}
    (h : repeatLast s least most cs = .ok (s', rest)) :
    s'.groups = s.groups ∧ s'.indices.Sublist s.indices ∧
      (most ≠ some 0 → s'.indices = s.indices) := by
  unfold repeatLast at h
  split at h
  next p parts hparts =>
    cases h
    have hpiece : ∀ greedy, Part.indices (.piece (p.repeated greedy least most)) =
        if most = some 0 then [] else p.expr.indices := fun greedy =>
      Expr.indices_repeated greedy p.expr least most
    have hlast : Part.indices (.piece p) = p.expr.indices := rfl
    simp only [State.indices, Branches.indices, hparts, List.reverse_cons, List.flatMap_append,
      List.flatMap_singleton, hpiece, hlast, true_and]
    split
    next hzero => exact ⟨by simp, fun hmost => absurd hzero hmost⟩
    next => exact ⟨.refl _, fun _ => rfl⟩
  next => cases h

/-- The count that is read next allows no round. -/
def NoRounds (s : State) (c : Char) (rest : List Char) : Prop :=
  c = '\x7b' ∧ ∃ least rest', counts s.flags.verbose rest = .ok ((least, some 0), rest')

/-- A round keeps the groups, or opens the next one, or drops some by a count. -/
theorem step_indices {rest' : List Char} (h : step s c rest = .ok (s', rest'))
    (hnodup : s.indices.Nodup) :
    Extends s s' ∨
      (NoRounds s c rest ∧ s'.groups = s.groups ∧ s'.indices.Sublist s.indices) := by
  have hrounds : ∀ {least most cs}, repeatLast s least most cs = .ok (s', rest') →
      most ≠ some 0 → Extends s s' := fun h hmost =>
    .inl ⟨(repeatLast_indices h).1, (repeatLast_indices h).2.2 hmost⟩
  unfold step at h
  split at h
  next => exact .inl (openGroup_extends h)
  next =>
    cases hclose : closeGroup s with
    | error e => rw [hclose] at h; cases h
    | ok closed =>
      rw [hclose] at h
      cases h
      exact .inl (.inl (closeGroup_indices hclose hnodup))
  next =>
    cases h
    exact .inl (.inl ⟨rfl, by simp only [State.indices, Branches.indices_bar]⟩)
  next =>
    cases hclass : readClass s.flags rest with
    | error e => rw [hclass] at h; cases h
    | ok found =>
      rw [hclass] at h
      cases h
      exact .inl (.inl ⟨rfl, s.indices_addSet _ _⟩)
  next => exact .inl (hrounds h (by decide))
  next => exact .inl (hrounds h (by decide))
  next => exact .inl (hrounds h (by decide))
  next =>
    split at h
    next =>
      split at h
      next => cases h
      next least most rest'' hcounts =>
        rcases eq_or_ne most (some 0) with rfl | hmost
        · obtain ⟨hgroups, hsub, -⟩ := repeatLast_indices h
          exact .inr ⟨⟨rfl, least, rest'', hcounts⟩, hgroups, hsub⟩
        · exact .inl (hrounds h hmost)
    next => cases h
  next => cases h; exact .inl (.inl ⟨rfl, s.indices_addSet _ _⟩)
  next => cases h; exact .inl (.inl ⟨rfl, s.indices_addAssertion _⟩)
  next => cases h; exact .inl (.inl ⟨rfl, s.indices_addAssertion _⟩)
  next =>
    split at h
    next => cases h
    next => cases h; exact .inl (.inl ⟨rfl, s.indices_addSet _ _⟩)
    next => cases h; exact .inl (.inl ⟨rfl, s.indices_addSet _ _⟩)
    next => cases h; exact .inl (.inl ⟨rfl, s.indices_addAssertion _⟩)
  next => cases h; exact .inl (.inl ⟨rfl, s.indices_addSet _ _⟩)

/-! ## Patterns -/

/-- Some count in what is left of the pattern allows no round. -/
inductive HasZeroCount : State → List Char → Prop
  | here {s : State} {cs : List Char} {c : Char} {rest : List Char} :
      skip s.flags.verbose cs = c :: rest → NoRounds s c rest → HasZeroCount s cs
  | later {s s' : State} {cs : List Char} {c : Char} {rest rest' : List Char} :
      skip s.flags.verbose cs = c :: rest → step s c rest = .ok (s', rest') →
      HasZeroCount s' rest' → HasZeroCount s cs

theorem range'_succ_groups (n : Nat) : List.range' 1 (n + 1) = List.range' 1 n ++ [n + 1] := by
  rw [List.range'_1_concat, Nat.add_comm 1 n]

theorem Extends.sublist (h : Extends s s') (hin : s.indices.Sublist (List.range' 1 s.groups)) :
    s'.indices.Sublist (List.range' 1 s'.groups) := by
  rcases h with ⟨hgroups, hindices⟩ | ⟨hgroups, hindices⟩
  · rwa [hgroups, hindices]
  · rw [hgroups, hindices, range'_succ_groups]
    exact hin.append (.refl _)

theorem Extends.complete (h : Extends s s') (hall : s.indices = List.range' 1 s.groups) :
    s'.indices = List.range' 1 s'.groups := by
  rcases h with ⟨hgroups, hindices⟩ | ⟨hgroups, hindices⟩
  · rw [hgroups, hindices, hall]
  · rw [hgroups, hindices, hall, range'_succ_groups]

/-- From a state whose groups begin in the order of their indices, reading leads to another one. If
there are no gaps between the indices, and no count is zero, there are none after it either. -/
theorem readFrom_indices {fuel : Nat} (h : readFrom fuel s cs = .ok s')
    (hin : s.indices.Sublist (List.range' 1 s.groups)) :
    s'.indices.Sublist (List.range' 1 s'.groups) ∧
      (¬HasZeroCount s cs → s.indices = List.range' 1 s.groups →
        s'.indices = List.range' 1 s'.groups) := by
  induction fuel generalizing s cs with
  | zero =>
    rw [readFrom.eq_def] at h
    split at h
    next => cases h; exact ⟨hin, fun _ hall => hall⟩
    next => cases h; exact ⟨hin, fun _ hall => hall⟩
    next hfuel _ => cases hfuel
  | succ fuel ih =>
    rw [readFrom.eq_def] at h
    split at h
    next => cases h; exact ⟨hin, fun _ hall => hall⟩
    next hfuel _ => cases hfuel
    next c rest hfuel hskip =>
      cases hfuel
      split at h
      next => cases h
      next s₁ rest₁ hstep =>
        have hnodup : s.indices.Nodup := List.Nodup.sublist hin List.nodup_range'
        rcases step_indices hstep hnodup with hext | ⟨hnone, hgroups, hsub⟩
        · obtain ⟨hin', hall'⟩ := ih h (hext.sublist hin)
          exact ⟨hin', fun hcounts hall =>
            hall' (fun hzero => hcounts (.later hskip hstep hzero)) (hext.complete hall)⟩
        · obtain ⟨hin', -⟩ := ih h (hgroups ▸ hsub.trans hin)
          exact ⟨hin', fun hcounts => absurd (.here hskip hnone) hcounts⟩

end

theorem sublist_range'_of_le {is : List Nat} {m n : Nat} (h : is.Sublist (List.range' 1 n))
    (hmn : m ≤ n) (hle : ∀ i ∈ is, i ≤ m) : is.Sublist (List.range' 1 m) := by
  obtain ⟨k, rfl⟩ := Nat.exists_eq_add_of_le hmn
  rw [← List.range'_append_1] at h
  obtain ⟨low, high, rfl, hlow, hhigh⟩ := List.sublist_append_iff.mp h
  have hnone : high = [] := List.eq_nil_iff_forall_not_mem.mpr fun i hi => by
    have hbound := List.mem_range'_1.mp (hhigh.subset hi)
    have := hle i (List.mem_append_right _ hi)
    omega
  rwa [hnone, List.append_nil]

/-- The groups of a pattern begin in the order of their indices. If no count is zero, they are
numbered from one without gaps. -/
theorem read_indices {cs : List Char} {e : Expr} (h : read cs = .ok e) :
    e.indices.Sublist (List.range' 1 e.regex.groups) ∧
      (¬HasZeroCount {} cs → e.indices = List.range' 1 e.regex.groups) := by
  obtain ⟨s, hs, houter, hvalue⟩ : ∃ s : State, readFrom cs.length {} cs = .ok s ∧
      s.outer = [] ∧ s.here.value.expr = e := by
    unfold read at h
    split at h
    next => cases h
    next s hs =>
      split at h
      next houter =>
        dsimp only at h
        split at h
        next => cases h
        next =>
          split at h
          next => exact ⟨s, hs, List.isEmpty_iff.mp houter, Except.ok.inj h⟩
          next => cases h
      next => cases h
  obtain ⟨hin, hall⟩ := readFrom_indices hs (.refl _)
  have hhere : e.indices = s.indices := by
    have hbranches : s.indices = s.here.indices := by rw [State.indices, houter]; rfl
    rw [hbranches] at hin ⊢
    rw [← hvalue, Branches.indices_value (List.Nodup.sublist hin List.nodup_range')]
  rw [← hhere] at hin hall
  have hle : e.regex.groups ≤ s.groups := Expr.groups_regex_le_iff.mpr fun i hi => by
    have := List.mem_range'_1.mp (hin.subset hi)
    omega
  have hbound : ∀ i ∈ e.indices, i ≤ e.regex.groups :=
    Expr.groups_regex_le_iff.mp (Nat.le_refl _)
  refine ⟨sublist_range'_of_le hin hle hbound, fun hcounts => ?_⟩
  have hevery : e.indices = List.range' 1 s.groups := hall hcounts rfl
  have hge : s.groups ≤ e.regex.groups := by
    rcases Nat.eq_zero_or_pos s.groups with hzero | hpos
    · rw [hzero]
      exact Nat.zero_le _
    · refine hbound s.groups ?_
      rw [hevery]
      exact List.mem_range'_1.mpr ⟨hpos, by omega⟩
  rw [hevery, Nat.le_antisymm hle hge]

/-- A group that is repeated no time at all is gone, and its index is not used again. -/
example : (read "(a)\x7b0\x7d(b)".toList).toOption.map Expr.indices = some [2] := by decide +kernel

end Reader
end Pattern
end FeatureScript
