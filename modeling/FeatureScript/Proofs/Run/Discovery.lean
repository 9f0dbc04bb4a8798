import FeatureScript.Files.Tree
import FeatureScript.Proofs.Files.Path
import FeatureScript.Proofs.Run.DryRun
import FeatureScript.Proofs.Run.Failure

/-!
# FeatureScript.Proofs.Run.Discovery

Which files of a directory are found, and that they are run as feature files.

`Lists`: a directory can be listed, and its entries have names, no two of them the same. A name that
is a text is found just if it is a helper and the suffix (`featurePath?_eq`). As the names are
sorted, each is found once, in ascending order (`sortNames_pairwise`). What is found passes the
check of names that comes before a file is run, so this check never ends the run of a directory
(`runDirectory_ne_notFeature`). `discovery_exact` puts this together.
-/

namespace FeatureScript

variable {fs : FileSystem} {dir : String} {entries : List DirectoryEntry}

/-! ## Names in bytes -/

namespace FileName

/-- The name that a text is. -/
def ofText (text : String) : FileName := text.toUTF8.data.toList

/-- A name by itself, that leads neither nowhere nor up. -/
structure IsProper (name : FileName) : Prop where
  nonempty : name ≠ []
  noSlash : Tree.slash ∉ name
  notDot : name ≠ Tree.dot
  notUp : name ≠ Tree.dotDot

theorem ofText_eq (text : String) : ofText text = text.toList.flatMap String.utf8EncodeChar := by
  conv => lhs; rw [← String.ofList_toList (s := text)]
  simp only [ofText, String.toUTF8_eq_toByteArray, String.toByteArray_ofList, List.utf8Encode,
    List.data_toByteArray, List.toList_toArray]

theorem text?_eq_some_iff {name : FileName} {text : String} :
    name.text? = some text ↔ name = ofText text := by
  have hbytes : name = ofText text ↔ (⟨name.toArray⟩ : ByteArray) = text.toByteArray := by
    rw [ofText, String.toUTF8_eq_toByteArray]
    constructor
    · rintro rfl
      rfl
    · intro h
      rw [← h]
  rw [text?, hbytes, String.fromUTF8?]
  split
  next hvalid =>
    rw [Option.some.injEq, ← String.toByteArray_inj]
    exact .rfl
  next hvalid =>
    refine iff_of_false nofun fun h => hvalid ?_
    rw [h]
    exact text.isValidUTF8

theorem ofText_inj {text text' : String} : ofText text = ofText text' ↔ text = text' := by
  rw [← text?_eq_some_iff, text?_eq_some_iff.mpr rfl, Option.some.injEq]

theorem IsProper.isName {text : String} (h : (ofText text).IsProper) : IsName text where
  nonempty := by
    rintro rfl
    exact h.nonempty rfl
  noSlash hslash := by
    refine h.noSlash ?_
    rw [ofText_eq]
    exact List.mem_flatMap.mpr ⟨'/', hslash, by decide⟩
  notDot := by
    rintro rfl
    exact h.notDot (by decide)
  notUp := by
    rintro rfl
    exact h.notUp (by decide)

end FileName

/-! ## Names in order -/

theorem sortNames_perm (names : List FileName) : (sortNames names).Perm names :=
  List.mergeSort_perm names _

/-- Names that differ are sorted in strictly ascending order. -/
theorem sortNames_pairwise {names : List FileName} (h : names.Nodup) :
    (sortNames names).Pairwise (· < ·) := by
  have hle : (sortNames names).Pairwise (· ≤ ·) := by
    refine (List.pairwise_mergeSort (fun a b c hab hbc => ?_) (fun a b => ?_) names).imp
      of_decide_eq_true
    · exact decide_eq_true (List.le_trans (of_decide_eq_true hab) (of_decide_eq_true hbc))
    · simpa using List.le_total a b
  refine (hle.and ((sortNames_perm names).nodup_iff.mpr h)).imp ?_
  rintro a b ⟨hab, hne⟩
  exact List.not_le.mp fun hba => hne (List.le_antisymm hab hba)

/-! ## Helpers of a directory -/

/-- The helper whose feature file has the name. -/
def FileName.helper? (name : FileName) : Option String := name.text?.bind helperName?

theorem FileName.helper?_eq_some_iff {name : FileName} (h : name.IsProper) {helper : String} :
    name.helper? = some helper ↔ helper ≠ "" ∧ name = ofText (helper ++ featureSuffix) := by
  unfold helper?
  cases htext : name.text? with
  | none =>
    refine iff_of_false nofun ?_
    rintro ⟨-, hname⟩
    rw [text?_eq_some_iff.mpr hname] at htext
    cases htext
  | some text =>
    obtain rfl := text?_eq_some_iff.mp htext
    rw [Option.bind_some, helperName?_of_isName h.isName, ofText_inj]

theorem featurePath?_eq {name : FileName} (h : name.IsProper) (dir : String) :
    featurePath? dir name =
      name.helper?.map fun helper => Path.join dir (helper ++ featureSuffix) := by
  unfold featurePath? FileName.helper?
  cases htext : name.text? with
  | none => rfl
  | some text =>
    obtain rfl := FileName.text?_eq_some_iff.mp htext
    dsimp only [Option.bind_some]
    rw [helperName?_join h.isName]
    cases hhelper : helperName? text with
    | none => rfl
    | some helper =>
      rw [((helperName?_of_isName h.isName).mp hhelper).2]
      rfl

/-! ## Directories -/

/-- The directory can be listed. Its entries have names, and no two of them the same. -/
structure Lists (fs : FileSystem) (dir : String) (entries : List DirectoryEntry) : Prop where
  exists_kind : ∃ kind, fs.kind dir = .ok kind
  target : fs.targetKind dir = .ok .directory
  listed : fs.entries dir = .ok entries
  nodup : (entries.map DirectoryEntry.name).Nodup
  proper : ∀ entry ∈ entries, entry.name.IsProper

/-- The names of the regular files of a directory, in ascending order. -/
def fileNames (entries : List DirectoryEntry) : List FileName :=
  sortNames ((entries.filter fun entry => entry.kind = .file).map DirectoryEntry.name)

/-- The helpers whose feature files are in a directory. -/
def helpersOf (entries : List DirectoryEntry) : List String :=
  (fileNames entries).filterMap FileName.helper?

theorem mem_fileNames {name : FileName} :
    name ∈ fileNames entries ↔ ∃ entry ∈ entries, entry.kind = .file ∧ entry.name = name := by
  rw [fileNames, (sortNames_perm _).mem_iff, List.mem_map]
  simp only [List.mem_filter, decide_eq_true_eq, and_assoc]

namespace Lists

theorem discover_eq (h : Lists fs dir entries) :
    discover fs dir = .ok (featurePaths dir entries) := by
  obtain ⟨kind, hkind⟩ := h.exists_kind
  rw [discover, hkind, h.target, h.listed]

theorem isProper (h : Lists fs dir entries) {name : FileName} (hname : name ∈ fileNames entries) :
    name.IsProper := by
  obtain ⟨entry, hentry, -, rfl⟩ := mem_fileNames.mp hname
  exact h.proper entry hentry

theorem featurePaths_eq (h : Lists fs dir entries) :
    featurePaths dir entries =
      (helpersOf entries).map fun helper => Path.join dir (helper ++ featureSuffix) := by
  rw [helpersOf, List.map_filterMap]
  exact List.filterMap_congr fun name hname => featurePath?_eq (h.isProper hname) dir

theorem mem_helpersOf (h : Lists fs dir entries) {helper : String} :
    helper ∈ helpersOf entries ↔ helper ≠ "" ∧ ∃ entry ∈ entries,
      entry.kind = .file ∧ entry.name = FileName.ofText (helper ++ featureSuffix) := by
  rw [helpersOf, List.mem_filterMap, ← mem_fileNames]
  constructor
  · rintro ⟨name, hname, hhelper⟩
    obtain ⟨hnonempty, rfl⟩ := (FileName.helper?_eq_some_iff (h.isProper hname)).mp hhelper
    exact ⟨hnonempty, hname⟩
  · rintro ⟨hnonempty, hname⟩
    exact ⟨_, hname, (FileName.helper?_eq_some_iff (h.isProper hname)).mpr ⟨hnonempty, rfl⟩⟩

theorem helpersOf_pairwise (h : Lists fs dir entries) :
    (helpersOf entries).Pairwise fun helper helper' =>
      FileName.ofText (helper ++ featureSuffix) < FileName.ofText (helper' ++ featureSuffix) := by
  have hnodup : ((entries.filter fun entry => entry.kind = .file).map DirectoryEntry.name).Nodup :=
    h.nodup.sublist (List.filter_sublist.map DirectoryEntry.name)
  refine List.pairwise_filterMap.mpr ((sortNames_pairwise hnodup).imp_of_mem ?_)
  intro name name' hname hname' hlt helper hhelper helper' hhelper'
  rwa [((FileName.helper?_eq_some_iff (h.isProper hname)).mp hhelper).2,
    ((FileName.helper?_eq_some_iff (h.isProper hname')).mp hhelper').2] at hlt

theorem helpersOf_nodup (h : Lists fs dir entries) : (helpersOf entries).Nodup := by
  refine h.helpersOf_pairwise.imp ?_
  rintro helper _ hlt rfl
  exact List.lt_irrefl _ hlt

theorem helperName?_join (h : Lists fs dir entries) {helper : String}
    (hmem : helper ∈ helpersOf entries) :
    helperName? (Path.join dir (helper ++ featureSuffix)) = some helper := by
  obtain ⟨hnonempty, entry, hentry, -, hname⟩ := h.mem_helpersOf.mp hmem
  have hproper : IsName (helper ++ featureSuffix) := (hname ▸ h.proper entry hentry).isName
  rw [FeatureScript.helperName?_join hproper, helperName?_of_isName hproper]
  exact ⟨hnonempty, rfl⟩

end Lists

/-! ## Names are checked twice -/

section

variable {ρ : Type} {catalog : Catalog} {R : Reporter ρ}

theorem runFeature_ne_notFeature {path helper : String} (h : helperName? path = some helper)
    (r : ρ) (p : String) : (runFeature fs catalog R path r).1 ≠ .error (.notFeature p) := by
  rw [runFeature_eq]
  cases hprepare : prepare fs catalog path with
  | error e =>
    intro he
    obtain rfl : e = .notFeature p := Except.error.inj he
    have hnone := (((prepare_prepares fs catalog path).notFeature_iff p).mp hprepare).2
    rw [h] at hnone
    cases hnone
  | ok file =>
    dsimp only [runText]
    split <;> simp

/-- The check of the name of a file passes each time, whatever the files before it came to. -/
theorem runFeatures_ne_notFeature {paths : List String}
    (h : ∀ path ∈ paths, ∃ helper, helperName? path = some helper) (summary : RunSummary) (r : ρ)
    (p : String) : (runFeatures fs catalog R summary paths r).1 ≠ .error (.notFeature p) := by
  induction paths generalizing summary r with
  | nil => exact nofun
  | cons path rest ih =>
    obtain ⟨helper, hhelper⟩ := h path List.mem_cons_self
    have hfirst : (runFeature fs catalog R path r).1 ≠ .error (.notFeature p) :=
      runFeature_ne_notFeature hhelper r p
    unfold runFeatures
    cases hrun : runFeature fs catalog R path r with
    | mk outcome r' =>
      rw [hrun] at hfirst
      cases outcome with
      | ok tally => exact ih (fun path hpath => h path (List.mem_cons_of_mem _ hpath)) _ _
      | error e => simpa using hfirst

theorem runDirectory_ne_notFeature (r : ρ) (p : String) :
    (runDirectory fs catalog R dir r).1 ≠ .error (.notFeature p) := by
  unfold runDirectory
  split
  · cases hfound : discover fs dir with
    | error e =>
      rcases discover_cases fs dir with ⟨_, _, h⟩ | h | ⟨_, -, h⟩ <;> rw [hfound] at h <;> cases h
      simp
    | ok paths =>
      cases paths with
      | nil => exact nofun
      | cons path rest =>
        exact runFeatures_ne_notFeature (fun _ hpath => helperName_of_found hfound hpath) {} r p
  · exact nofun

end

/-- Where a directory can be listed, its feature files are found: exactly the regular files among
its entries whose names are a helper and the suffix, once each, in ascending order of the bytes of
their names. Each is the feature file of its helper, and no two are of the same one. No directory is
run to an error on the name of a file. -/
theorem discovery_exact (fs : FileSystem) (dir : String) :
    (∀ entries, Lists fs dir entries →
      ∃ helpers : List String,
        discover fs dir =
          .ok (helpers.map fun helper => Path.join dir (helper ++ ".feature")) ∧
        (∀ helper, helper ∈ helpers ↔ helper ≠ "" ∧ ∃ entry ∈ entries,
          entry.kind = .file ∧ entry.name = FileName.ofText (helper ++ ".feature")) ∧
        (helpers.map fun helper => FileName.ofText (helper ++ ".feature")).Pairwise (· < ·) ∧
        (∀ helper ∈ helpers, helperName? (Path.join dir (helper ++ ".feature")) = some helper) ∧
        helpers.Nodup) ∧
    ∀ (catalog : Catalog) (ρ : Type) (R : Reporter ρ) (r : ρ) (path : String),
      (runDirectory fs catalog R dir r).1 ≠ .error (.notFeature path) := by
  refine ⟨fun entries h => ⟨helpersOf entries, ?_, fun helper => h.mem_helpersOf, ?_,
    fun helper hmem => h.helperName?_join hmem, h.helpersOf_nodup⟩,
    fun catalog ρ R r path => runDirectory_ne_notFeature r path⟩
  · rw [h.discover_eq, h.featurePaths_eq]
    rfl
  · exact List.pairwise_map.mpr h.helpersOf_pairwise

/-- A directory of what can be taken for a feature file, out of order. -/
def mixedEntries : List DirectoryEntry :=
  [⟨FileName.ofText "b.feature", .file⟩, ⟨FileName.ofText "a.x.feature", .file⟩,
    ⟨FileName.ofText "..feature", .file⟩, ⟨FileName.ofText ".feature", .file⟩,
    ⟨FileName.ofText "c.FEATURE", .file⟩, ⟨FileName.ofText "c.feature~", .file⟩,
    ⟨255 :: FileName.ofText ".feature", .file⟩, ⟨FileName.ofText "d.feature", .directory⟩,
    ⟨FileName.ofText "e.feature", .link⟩]

/-- Directories with the entries. -/
def FileSystem.listing (entries : List DirectoryEntry) : FileSystem where
  kind _ := .ok .directory
  targetKind _ := .ok .directory
  entries _ := .ok entries
  readText _ := .error .isDirectory

theorem discovery_exact_mixed :
    Lists (.listing mixedEntries) "features" mixedEntries ∧
      ∃ helpers : List String,
        discover (.listing mixedEntries) "features" =
          .ok (helpers.map fun helper => Path.join "features" (helper ++ ".feature")) ∧
        ∀ helper, helper ∈ helpers ↔ helper ∈ ["b", "a.x", "."] := by
  have hproper : ∀ entry ∈ mixedEntries, entry.name ≠ [] ∧ Tree.slash ∉ entry.name ∧
      entry.name ≠ Tree.dot ∧ entry.name ≠ Tree.dotDot := by
    decide +kernel
  have hlists : Lists (.listing mixedEntries) "features" mixedEntries :=
    { exists_kind := ⟨.directory, rfl⟩
      target := rfl
      listed := rfl
      nodup := by decide +kernel
      proper entry hentry :=
        let ⟨hnonempty, hslash, hdot, hup⟩ := hproper entry hentry
        ⟨hnonempty, hslash, hdot, hup⟩ }
  have hfiles : ((mixedEntries.filter fun entry => entry.kind = .file).map
      DirectoryEntry.name).filterMap FileName.helper? = ["b", "a.x", "."] := by
    decide +kernel
  obtain ⟨helpers, hfound, hmem, -⟩ :=
    (discovery_exact (.listing mixedEntries) "features").1 _ hlists
  refine ⟨hlists, helpers, hfound, fun helper => ?_⟩
  rw [← hfiles, ← ((sortNames_perm _).filterMap FileName.helper?).mem_iff]
  exact (hmem helper).trans hlists.mem_helpersOf.symm

end FeatureScript
