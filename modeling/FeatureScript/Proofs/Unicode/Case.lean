import FeatureScript.Line
import FeatureScript.Pattern.CharSet

/-!
# FeatureScript.Proofs.Unicode.Case

Letters in either case.

What folds to a code point is found in the table of the foldings (`eq_or_mem_foldPairs`). This gives
the sets that stand in a pattern for the letters of headings and keywords where case makes no
difference (`folded_single`). Such a set has the characters with the same folding (`has_caseless`).
But for the letter s, whose long form folds to it as well, these are the letter in either case
(`has_caseless_of_ne`).
-/

namespace FeatureScript

namespace Unicode

/-- Capital letters of ASCII stand 32 code points before their small letters. -/
theorem toNat_toLower (c : Char) :
    c.toLower.toNat = if 65 ≤ c.toNat ∧ c.toNat ≤ 90 then c.toNat + 32 else c.toNat := by
  by_cases h : c.val ≥ 'A'.val ∧ c.val ≤ 'Z'.val
  · have hletter : 65 ≤ c.toNat ∧ c.toNat ≤ 90 := h
    have hlower : c.toLower.val = c.val + 32 := congrArg Char.val (dif_pos h)
    have hsum : (c.val + 32).toNat = c.val.toNat + 32 := by
      rw [UInt32.toNat_add]
      exact Nat.mod_eq_of_lt (by show c.toNat + 32 < 2 ^ 32; omega)
    rw [if_pos hletter]
    exact (congrArg UInt32.toNat hlower).trans hsum
  · have hletter : ¬(65 ≤ c.toNat ∧ c.toNat ≤ 90) := h
    have hlower : c.toLower = c := dif_neg h
    rw [if_neg hletter, hlower]

/-- The code points that a run moves. -/
def CaseRun.points (r : CaseRun) : List Nat :=
  (List.range ((r.last - r.first) / r.stride + 1)).map fun i => r.first + i * r.stride

theorem CaseRun.mem_points {r : CaseRun} {n : Nat} (h : r.covers n = true) : n ∈ r.points := by
  simp only [covers, Bool.and_eq_true, decide_eq_true_eq] at h
  obtain ⟨⟨hfirst, hlast⟩, hstride⟩ := h
  have hn : r.first + (n - r.first) / r.stride * r.stride = n := by
    rw [Nat.div_mul_cancel (Nat.dvd_of_mod_eq_zero hstride), Nat.add_sub_cancel' hfirst]
  have hi : (n - r.first) / r.stride < (r.last - r.first) / r.stride + 1 :=
    Nat.lt_succ_of_le (Nat.div_le_div_right (Nat.sub_le_sub_right hlast _))
  exact List.mem_map.mpr ⟨_, List.mem_range.mpr hi, hn⟩

/-- What folds to a code point is this code point itself or moved to it by the table. -/
theorem eq_or_mem_foldPairs {n m : Nat} (h : fold n = m) : n = m ∨ (n, m) ∈ foldPairs := by
  rw [fold, mapRun] at h
  split at h
  next r hr =>
    have hcovers := List.find?_some hr
    obtain ⟨i, hi, hn⟩ := List.mem_map.mp (CaseRun.mem_points hcovers)
    exact .inr (List.mem_flatMap.mpr ⟨r, List.mem_of_find?_eq_some hr,
      List.mem_map.mpr ⟨i, hi, by rw [hn, h]⟩⟩)
  next => exact .inl h

theorem Ranges.has_point (n m : Nat) : Ranges.has [(n, n)] m = (m == n) := by
  rw [Ranges.has, Ranges.has]
  split
  next h => rw [Bool.eq_iff_iff, decide_eq_true_iff, beq_iff_eq]; omega
  next h => exact (beq_eq_false_iff_ne.mpr (by omega)).symm

theorem Ranges.union_nil_point (n : Nat) : Ranges.union [(n, n)] [] = [(n, n)] := by
  rw [Ranges.union, List.merge_right]
  rfl

theorem Ranges.ofPoints_of_pairwise {points : List Nat} (h : points.Pairwise (· ≤ ·)) :
    Ranges.ofPoints points = Ranges.join (points.map fun n => (n, n)) := by
  rw [Ranges.ofPoints, List.mergeSort_of_pairwise]
  exact h.imp fun h => decide_eq_true h

end Unicode

namespace Pattern

open Unicode Grammar

/-- The letters in the names of headings and keywords. -/
def nameLetters : List Char :=
  ['a', 'b', 'c', 'd', 'e', 'f', 'g', 'h', 'i', 'n', 'o', 'r', 's', 't', 'u', 'v', 'w']

/-- The words are made of letters and not empty. -/
def Words (ws : List (List Char)) : Prop := ∀ w ∈ ws, w ≠ [] ∧ ∀ c ∈ w, c ∈ nameLetters

instance (ws : List (List Char)) : Decidable (Words ws) :=
  decidable_of_iff (ws.all fun w => !w.isEmpty && w.all nameLetters.contains) (by simp [Words])

/-- The letter in either case, and the long form of the letter s. -/
def caseless (c : Char) : CharSet :=
  ⟨(c.toNat - 32, c.toNat - 32) :: (c.toNat, c.toNat) ::
    if c = 's' then [(0x17F, 0x17F)] else []⟩

section

variable {c : Char}

theorem forall_nameLetters {P : Char → Prop} [DecidablePred P]
    (h : nameLetters.all (fun c => decide (P c)) = true) (hc : c ∈ nameLetters) : P c :=
  of_decide_eq_true (List.all_eq_true.mp h c hc)

theorem nameLetters_small (hc : c ∈ nameLetters) : 97 ≤ c.toNat ∧ c.toNat ≤ 122 :=
  forall_nameLetters (P := fun c => 97 ≤ c.toNat ∧ c.toNat ≤ 122) (by decide) hc

theorem foldPairs_to (hc : c ∈ nameLetters) :
    foldPairs.filter (fun p => p.2 == c.toNat) =
      (c.toNat - 32, c.toNat) :: if c = 's' then [(0x17F, c.toNat)] else [] :=
  forall_nameLetters (P := fun c => foldPairs.filter (fun p => p.2 == c.toNat) =
    (c.toNat - 32, c.toNat) :: if c = 's' then [(0x17F, c.toNat)] else []) (by decide +kernel) hc

theorem foldPairs_from (hc : c ∈ nameLetters) :
    foldPairs.filter (fun p => p.1 == c.toNat) = [] :=
  forall_nameLetters (P := fun c => foldPairs.filter (fun p => p.1 == c.toNat) = [])
    (by decide +kernel) hc

/-- The set of a character that the table does not move, and of what it moves to it. -/
theorem folded_of_fixed (hfrom : foldPairs.filter (fun p => p.1 == c.toNat) = []) :
    (CharSet.single c).folded = ⟨Ranges.union [(c.toNat, c.toNat)]
      (Ranges.ofPoints ((foldPairs.filter fun p => p.2 == c.toNat).map Prod.fst))⟩ := by
  simp only [CharSet.folded, CharSet.single, Ranges.folded, Ranges.has_point, hfrom, List.map_nil,
    Ranges.ofPoints_of_pairwise .nil, Ranges.join, Ranges.union_nil_point]

theorem folded_single (hc : c ∈ nameLetters) : (CharSet.single c).folded = caseless c := by
  obtain ⟨hlow, -⟩ := nameLetters_small hc
  rw [folded_of_fixed (foldPairs_from hc), foldPairs_to hc, caseless]
  -- Only the letter s has a third character, which stands behind the other two.
  by_cases hs : c = 's'
  · subst hs
    simp [Ranges.ofPoints_of_pairwise, Ranges.union, Ranges.join, Ranges.joinFrom]
  · have hjoin : ¬c.toNat ≤ c.toNat - 32 + 1 := by omega
    have horder : ¬c.toNat ≤ c.toNat - 32 := by omega
    simp [hs, hjoin, horder, Ranges.ofPoints_of_pairwise, Ranges.union, Ranges.join,
      Ranges.joinFrom]

theorem folded_colon : (CharSet.single ':').folded = .single ':' := by
  have hpairs : foldPairs.filter (fun p => p.1 == ':'.toNat) = [] ∧
      foldPairs.filter (fun p => p.2 == ':'.toNat) = [] := by decide +kernel
  rw [folded_of_fixed hpairs.1, hpairs.2, List.map_nil, Ranges.ofPoints_of_pairwise .nil,
    List.map_nil, Ranges.join, Ranges.union_nil_point]
  rfl

/-- A letter is what its two cases fold to, and the long s. -/
theorem fold_eq_iff (hc : c ∈ nameLetters) {n : Nat} :
    fold n = c.toNat ↔ n = c.toNat ∨ n = c.toNat - 32 ∨ c = 's' ∧ n = 0x17F := by
  have hfold : fold c.toNat = c.toNat ∧ fold (c.toNat - 32) = c.toNat :=
    forall_nameLetters (P := fun c => fold c.toNat = c.toNat ∧ fold (c.toNat - 32) = c.toNat)
      (by decide) hc
  constructor
  · intro h
    refine (eq_or_mem_foldPairs h).imp id fun hpair => ?_
    have hmem : (n, c.toNat) ∈ foldPairs.filter (fun p => p.2 == c.toNat) :=
      List.mem_filter.mpr ⟨hpair, beq_self_eq_true _⟩
    rw [foldPairs_to hc] at hmem
    split at hmem <;> simp_all
  · rintro (rfl | rfl | ⟨rfl, rfl⟩)
    · exact hfold.1
    · exact hfold.2
    · decide

theorem has_caseless_iff (hc : c ∈ nameLetters) {d : Char} : (caseless c).has d = true ↔
    d.toNat = c.toNat ∨ d.toNat = c.toNat - 32 ∨ c = 's' ∧ d.toNat = 0x17F := by
  obtain ⟨hlow, hhigh⟩ := nameLetters_small hc
  rw [CharSet.has, caseless]
  by_cases hs : c = 's'
  · subst hs
    have hs : 's'.toNat = 115 := rfl
    simp only [hs, if_true, Ranges.has, true_and]
    repeat' split
    all_goals simp only [decide_eq_true_eq, Bool.false_eq_true, false_iff]; omega
  · simp only [hs, if_false, Ranges.has, false_and, or_false]
    repeat' split
    all_goals simp only [decide_eq_true_eq, Bool.false_eq_true, false_iff]; omega

/-- The set of a letter has what has the same folding. -/
theorem has_caseless (hc : c ∈ nameLetters) (d : Char) : (caseless c).has d = sameFolded c d := by
  have hself : fold c.toNat = c.toNat := (fold_eq_iff hc).mpr (.inl rfl)
  rw [Bool.eq_iff_iff, sameFolded, beq_iff_eq, hself, eq_comm (a := c.toNat), fold_eq_iff hc,
    has_caseless_iff hc]

/-- Any letter but the letter s stands for itself in either case. -/
theorem has_caseless_of_ne (hc : c ∈ nameLetters) (hs : c ≠ 's') (d : Char) :
    (caseless c).has d = (c == d.toLower) := by
  obtain ⟨hlow, hhigh⟩ := nameLetters_small hc
  rw [Bool.eq_iff_iff, beq_iff_eq, has_caseless_iff hc, ← Char.toNat_inj (c := c) (d := d.toLower),
    toNat_toLower]
  simp only [hs, false_and, or_false]
  split <;> omega

end

end Pattern
end FeatureScript
