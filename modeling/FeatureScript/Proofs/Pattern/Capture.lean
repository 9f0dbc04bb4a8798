import FeatureScript.Proofs.Pattern.Leftmost
import FeatureScript.Proofs.Pattern.Numbering
import FeatureScript.Proofs.Step.Dispatch

/-!
# FeatureScript.Proofs.Pattern.Capture

What a pattern captures.

`Captured` says what a group captures in a match: the part of the text that it matched last, or
nothing if it took no part. `captures_keep_positions`: a pattern captures nothing just if it matches
nowhere in a text. Otherwise there is a capture for every group, at the same place in every text,
so a handler misses a capture only behind the last group of its pattern.
-/

namespace FeatureScript

open Pattern

/-- What a group captures in a text, given the parts that the groups match there, the last one
first. -/
inductive Captured (text : String) (spans : List Span) (group : Nat) : String → Prop
  | absent : (∀ s ∈ spans, s.group ≠ group) → Captured text spans group ""
  | last {later earlier : List Span} {front part back : List Char} :
      spans = later ++ ⟨group, front.length, front.length + part.length⟩ :: earlier →
      (∀ s ∈ later, s.group ≠ group) → text.toList = front ++ (part ++ back) →
      Captured text spans group (String.ofList part)

namespace StepPattern

variable {source text : String} {p : StepPattern}

theorem nested_of_compile (h : compile source = .ok p) : p.regex.Nested := by
  obtain ⟨e, hread, rfl⟩ := compile_eq_ok h
  exact Expr.nested_regex (List.Nodup.sublist (Reader.read_indices hread).1 List.nodup_range')

/-- What stands between two positions of a text. -/
theorem extract_between {cs : List Char} {first last : Nat} (hle : first ≤ last)
    (hlast : last ≤ cs.length) :
    ∃ front part back, cs = front ++ (part ++ back) ∧ front.length = first ∧
      front.length + part.length = last ∧ (cs.toArray.extract first last).toList = part := by
  have hfront : (cs.take first).length = first := by
    rw [List.length_take]
    omega
  refine ⟨cs.take first, (cs.drop first).take (last - first), (cs.drop first).drop (last - first),
    ?_, hfront, ?_, ?_⟩
  · rw [List.take_append_drop, List.take_append_drop]
  · rw [hfront, List.length_take, List.length_drop]
    omega
  · rw [Array.toList_extract, List.extract_eq_take_drop]

/-- A capture is what the marks of its group record. -/
theorem captured_of_records {marks : List Mark} {spans : List Span}
    (hrecords : Records spans marks)
    (hspans : ∀ s ∈ spans, s.first ≤ s.last ∧ s.last ≤ text.toList.length) (group : Nat) :
    Captured text spans group (match spanOf? marks group with
      | some (first, last) => String.ofList (text.toList.toArray.extract first last).toList
      | none => "") := by
  rw [hrecords.spanOf?]
  cases hfind : spans.find? (·.group == group) with
  | none => exact .absent fun s hs => by simpa using List.find?_eq_none.mp hfind s hs
  | some s =>
    obtain ⟨hgroup, later, earlier, hsplit, hlater⟩ := List.find?_eq_some_iff_append.mp hfind
    obtain ⟨i, first, last⟩ := s
    obtain rfl : i = group := by simpa using hgroup
    obtain ⟨hle, hlast⟩ := hspans _ (hsplit ▸ List.mem_append_right _ List.mem_cons_self)
    obtain ⟨front, part, back, htext, rfl, rfl, hpart⟩ := extract_between hle hlast
    show Captured text spans i (String.ofList (text.toList.toArray.extract _ _).toList)
    rw [hpart]
    exact .last hsplit (fun s hs => by simpa using hlater s hs) htext

theorem captures_eq_none_iff (h : compile source = .ok p) :
    p.captures text = none ↔ ∀ start stop spans, start ≤ text.toList.length →
      ¬p.regex.Matches text.toList.toArray start stop spans := by
  rw [captures, Option.map_eq_none_iff, Regex.search_eq_none_iff (nested_of_compile h)]
  rfl

/-- Every group that matches something is one of those that are counted. -/
theorem group_counted (h : compile source = .ok p) {start stop : Nat} {spans : List Span}
    (hmatch : p.regex.Matches text.toList.toArray start stop spans) :
    ∀ s ∈ spans, 1 ≤ s.group ∧ s.group ≤ p.groups := by
  intro s hs
  obtain ⟨e, hread, rfl⟩ := compile_eq_ok h
  obtain ⟨-, -, -, body, hbody⟩ := hmatch.within.2 s hs
  refine ⟨?_, hbody.le_groups⟩
  have hin := (Reader.read_indices hread).1.subset (Expr.mem_indices_iff.mpr ⟨body, hbody⟩)
  exact (List.mem_range'_1.mp hin).1

/-- What is captured is what the groups capture in a first match, on the preferred way. -/
theorem captures_eq_some {captures : List String} (h : compile source = .ok p)
    (hsome : p.captures text = some captures) :
    captures.length = p.groups ∧ ∃ start stop spans marks,
      p.regex.FirstMatch text.toList.toArray start stop spans ∧
      Preferred p.regex.program text.toList.toArray [] ⟨0, start, []⟩ marks ∧
      Records spans marks ∧
      ∀ i capture, captures[i]? = some capture → Captured text spans (i + 1) capture := by
  obtain ⟨marks, hsearch, rfl⟩ := Option.map_eq_some_iff.mp hsome
  obtain ⟨start, stop, spans, hfirst, hway, hrecords⟩ :=
    Regex.search_match (nested_of_compile h) hsearch
  have hspans : ∀ s ∈ spans, s.first ≤ s.last ∧ s.last ≤ text.toList.length := by
    intro s hs
    obtain ⟨-, hle, hlast, -⟩ := hfirst.is_match.within.2 s hs
    exact ⟨hle, Nat.le_trans hlast (hfirst.is_match.le_size hfirst.start_le)⟩
  refine ⟨by simp, start, stop, spans, marks, hfirst, hway, hrecords, fun i capture hi => ?_⟩
  rw [List.getElem?_map] at hi
  obtain ⟨j, hj, rfl⟩ := Option.map_eq_some_iff.mp hi
  obtain ⟨-, rfl⟩ := List.getElem?_eq_some_iff.mp hj
  rw [List.getElem_range]
  exact captured_of_records hrecords hspans (i + 1)

end StepPattern

/-- No capture is at an index just if it is behind the last one. -/
theorem captureAt_eq_error_iff {captures : List String} {i : Nat} {e : StepError} :
    captureAt captures i = .error e ↔ captures.length ≤ i ∧
      e = .argument i ("pattern captured only " ++ toString captures.length ++ " group(s)") := by
  rw [captureAt]
  split
  next capture hcapture =>
    have := (List.getElem?_eq_some_iff.mp hcapture).1
    simp only [reduceCtorEq, false_iff]
    omega
  next hnone => simp [List.getElem?_eq_none_iff.mp hnone, eq_comm]

/-- A handler that is run gets the captures of its own definition. -/
theorem takes_of_run {W : Type} {r : Registry W} {world : W} {k : Keyword} {text : String}
    {n : Nat} {captures : List String} {d : Definition W}
    (hrun : ⟨n, captures⟩ ∈ (dispatch r.traced (world, []) k text).2.2)
    (hd : r.definitions[n]? = some d) : d.Takes k text captures := by
  rcases Registry.lacks_or_first r.definitions k text with hlacks | ⟨m, d', captures', hfirst⟩
  · rw [dispatch_of_lacks _ hlacks.traced] at hrun
    cases hrun
  · rw [dispatch_of_first _ hfirst.traced] at hrun
    cases List.mem_singleton.mp hrun
    cases hd.symm.trans hfirst.at_position
    exact hfirst.takes

/-- Captures keep their positions. The groups of an accepted pattern begin in the order of their
indices, which start at one and have no gaps unless a count in the pattern is zero. A text has no
captures just if the pattern matches nothing in it. Otherwise it has one for each group, the same
number in every text. No match starts before the one they come from, which is the preferred one from
its start; there the capture at an index is the part of the text that the group matched last, or
empty if the group took no part. A handler that is reached by the pattern misses the capture at an
index just if there are not so many groups. -/
theorem captures_keep_positions {source : String} {p : StepPattern}
    (h : StepPattern.compile source = .ok p) :
    (∃ e, Reader.read source.toList = .ok e ∧ p.regex = e.regex ∧
      e.indices.Sublist (List.range' 1 p.groups) ∧
      (¬Reader.HasZeroCount {} source.toList → e.indices = List.range' 1 p.groups)) ∧
    (∀ text : String, p.captures text = none ↔ ∀ start stop spans, start ≤ text.toList.length →
      ¬p.regex.Matches text.toList.toArray start stop spans) ∧
    (∀ (text : String) (captures : List String), p.captures text = some captures →
      captures.length = p.groups ∧ ∃ start stop spans marks,
        p.regex.FirstMatch text.toList.toArray start stop spans ∧
        Preferred p.regex.program text.toList.toArray [] ⟨0, start, []⟩ marks ∧
        Records spans marks ∧
        (∀ s ∈ spans, 1 ≤ s.group ∧ s.group ≤ p.groups) ∧
        ∀ i capture, captures[i]? = some capture → Captured text spans (i + 1) capture) ∧
    ∀ (W : Type) (r : Registry W) (world : W) (k : Keyword) (text : String) (n : Nat)
      (captures : List String) (d : Definition W),
      ⟨n, captures⟩ ∈ (dispatch r.traced (world, []) k text).2.2 →
      r.definitions[n]? = some d → d.pattern = p → p.captures text = some captures ∧
        ∀ i e, captureAt captures i = .error e ↔ p.groups ≤ i ∧
          e = .argument i ("pattern captured only " ++ toString p.groups ++ " group(s)") := by
  refine ⟨?_, fun text => StepPattern.captures_eq_none_iff h, fun text captures hsome => ?_,
    fun W r world k text n captures d hrun hd hp => ?_⟩
  · obtain ⟨e, hread, rfl⟩ := StepPattern.compile_eq_ok h
    exact ⟨e, hread, rfl, Reader.read_indices hread⟩
  · obtain ⟨hlength, start, stop, spans, marks, hfirst, hway, hrecords, hcaptured⟩ :=
      StepPattern.captures_eq_some h hsome
    exact ⟨hlength, start, stop, spans, marks, hfirst, hway, hrecords,
      StepPattern.group_counted h hfirst.is_match, hcaptured⟩
  · subst hp
    have hsome : d.pattern.captures text = some captures := (takes_of_run hrun hd).2
    obtain ⟨hlength, -⟩ := StepPattern.captures_eq_some h hsome
    refine ⟨hsome, fun i e => ?_⟩
    rw [captureAt_eq_error_iff, hlength]

/-- Two groups may be left out here, and the third one keeps its position. -/
theorem captures_keep_positions_optional :
    ∃ p, StepPattern.compile "^(a)?(b)?(c)$" = .ok p ∧ p.groups = 3 ∧
      p.captures "ac" = some ["a", "", "c"] ∧ p.captures "bc" = some ["", "b", "c"] ∧
      ∃ start stop spans, p.regex.FirstMatch "bc".toList.toArray start stop spans ∧
        Captured "bc" spans 1 "" ∧ Captured "bc" spans 2 "b" ∧ Captured "bc" spans 3 "c" := by
  have hread : (StepPattern.compile "^(a)?(b)?(c)$").toOption.map (fun p =>
      (p.groups, p.captures "ac", p.captures "bc")) =
      some (3, some ["a", "", "c"], some ["", "b", "c"]) := by decide +kernel
  cases hcompile : StepPattern.compile "^(a)?(b)?(c)$" with
  | error e =>
    rw [hcompile] at hread
    cases hread
  | ok p =>
    rw [hcompile] at hread
    obtain ⟨hgroups, hac, hbc⟩ : p.groups = 3 ∧ p.captures "ac" = some ["a", "", "c"] ∧
        p.captures "bc" = some ["", "b", "c"] := by
      simpa [Except.toOption] using hread
    obtain ⟨-, start, stop, spans, -, hfirst, -, -, -, hcaptured⟩ :=
      (captures_keep_positions hcompile).2.2.1 "bc" _ hbc
    exact ⟨p, rfl, hgroups, hac, hbc, start, stop, spans, hfirst, hcaptured 0 _ rfl,
      hcaptured 1 _ rfl, hcaptured 2 _ rfl⟩

/-- A group keeps what it matched in an earlier round. -/
example : (StepPattern.compile "^((a)|(b))+$").toOption.map (·.captures "ab") =
    some (some ["b", "a", "b"]) := by decide +kernel

end FeatureScript
