import FeatureScript.Proofs.Text.Split
import FeatureScript.Run.Helper

/-!
# FeatureScript.Proofs.Files.Path

Names at the end of paths.

The names on a path that is joined from two are those of the first and those of the second
(`names_join`). So the entry of a directory is found behind the path of the directory
(`fileName?_join`), and it is a feature file just if its name is a helper and the suffix
(`helperName?_join`, `helperName?_of_isName`).
-/

namespace FeatureScript

/-! ## Names on paths -/

/-- A text that is a name by itself, and leads neither nowhere nor up. -/
structure IsName (name : String) : Prop where
  nonempty : name ≠ ""
  noSlash : '/' ∉ name.toList
  notDot : name ≠ "."
  notUp : name ≠ ".."

namespace Path

theorem names_slash (dir name : String) : names (dir ++ "/" ++ name) = names dir ++ names name := by
  have hslash : (dir ++ "/" ++ name).toList = dir.toList ++ '/' :: name.toList := by
    simp [String.toList_append]
  rw [names, hslash, Text.split_append, List.filter_append, List.map_append]
  rfl

theorem names_join (dir name : String) : names (join dir name) = names dir ++ names name := by
  have hempty : names "" = [] := by decide
  unfold join
  split
  next hlast =>
    obtain rfl : dir = "" := String.toList_injective (List.getLast?_eq_none_iff.mp hlast)
    rw [String.empty_append, hempty, List.nil_append]
  next hlast =>
    -- a slash that stands there already is that of the empty name behind it
    obtain ⟨front, hfront⟩ := List.getLast?_eq_some_iff.mp hlast
    obtain rfl : dir = String.ofList front ++ "/" ++ "" :=
      String.toList_injective (by simp [hfront])
    rw [names_slash, hempty, List.append_nil, String.append_empty, names_slash]
  next => exact names_slash dir name

theorem names_of_isName {name : String} (h : IsName name) : names name = [name] := by
  have hcounts : name.toList ≠ [] ∧ name.toList ≠ ['.'] :=
    ⟨fun heq => h.nonempty (String.toList_injective heq),
      fun heq => h.notDot (String.toList_injective heq)⟩
  rw [names, Text.split_of_not_mem h.noSlash]
  simp [hcounts]

theorem fileName?_of_isName {name : String} (h : IsName name) : fileName? name = some name := by
  rw [fileName?, names_of_isName h, List.getLast?_singleton]
  exact if_neg h.notUp

theorem fileName?_join {name : String} (h : IsName name) (dir : String) :
    fileName? (join dir name) = some name := by
  rw [fileName?, names_join, names_of_isName h, List.getLast?_concat]
  exact if_neg h.notUp

end Path

/-! ## Helpers -/

theorem dropSuffix?_eq_some_iff {suffix cs front : List Char} :
    dropSuffix? suffix cs = some front ↔ cs = front ++ suffix := by
  unfold dropSuffix?
  split
  next hsuffix =>
    obtain ⟨front', rfl⟩ := List.isSuffixOf_iff_suffix.mp hsuffix
    rw [List.length_append, Nat.add_sub_cancel, List.take_left, Option.some.injEq,
      List.append_left_inj]
  next hsuffix =>
    refine iff_of_false nofun ?_
    rintro rfl
    exact hsuffix (List.isSuffixOf_iff_suffix.mpr (List.suffix_append front suffix))

theorem helperName?_eq_some_iff {path helper : String} :
    helperName? path = some helper ↔
      helper ≠ "" ∧ Path.fileName? path = some (helper ++ featureSuffix) := by
  unfold helperName?
  cases Path.fileName? path with
  | none => simp
  | some name =>
    have hname : name = helper ++ featureSuffix ↔
        dropSuffix? featureSuffix.toList name.toList = some helper.toList := by
      rw [dropSuffix?_eq_some_iff, ← String.toList_inj, String.toList_append]
    have hempty : helper ≠ "" ↔ helper.toList ≠ [] := by simp
    dsimp only
    rw [Option.some.injEq, hname, hempty]
    cases dropSuffix? featureSuffix.toList name.toList with
    | none => simp
    | some front =>
      cases front with
      | nil =>
        refine iff_of_false nofun ?_
        rintro ⟨hnonempty, hfront⟩
        exact hnonempty (Option.some.inj hfront).symm
      | cons c rest =>
        rw [Option.some.injEq, Option.some.injEq, ← String.toList_inj, String.toList_ofList]
        exact ⟨fun h => ⟨h ▸ List.cons_ne_nil c rest, h⟩, And.right⟩

theorem helperName?_of_isName {name helper : String} (h : IsName name) :
    helperName? name = some helper ↔ helper ≠ "" ∧ name = helper ++ featureSuffix := by
  rw [helperName?_eq_some_iff, Path.fileName?_of_isName h, Option.some.injEq]

/-- The directory that a file stands in has no part in its helper. -/
theorem helperName?_join {name : String} (h : IsName name) (dir : String) :
    helperName? (Path.join dir name) = helperName? name := by
  rw [helperName?, helperName?, Path.fileName?_join h, Path.fileName?_of_isName h]

end FeatureScript
