import FeatureScript.Pattern.Basic
import FeatureScript.Proofs.Pattern.Search

/-!
# FeatureScript.Proofs.Pattern.Literal

Patterns for one text.

The pattern of a text is read back as the text between two assertions (`read_literal`), whatever
characters it has, and is refused only if the text takes too many bytes. Its program is a straight
line that takes the characters one by one, so it matches the trimmed text and nothing else, and
captures nothing (`literal_captures`).
-/

namespace FeatureScript
namespace Pattern

/-! ## Reading -/

namespace Reader

/-- The piece that one character is read as. -/
def charPiece (c : Char) : Piece := { expr := .text [c] }

/-- The piece that an assertion is read as. -/
def assertionPiece (a : Assertion) : Piece := { expr := .assert a }

/-- A state in which these pieces were read, the last one first. -/
def readPieces (pieces : List Piece) : State := { here := { parts := pieces.map .piece } }

theorem ofSet_single (c : Char) : Expr.ofSet (.single c) = .text [c] := by
  simp only [Expr.ofSet, CharSet.single, CharSet.only?, if_true, Char.ofNat_toNat]

theorem step_of_meta (s : State) {c : Char} (h : isPatternMeta c = true) (rest : List Char) :
    step s '\\' (c :: rest) = .ok (s.addSet (charSet s.flags c) 0, rest) := by
  have hall : (['\\', '.', '+', '*', '?', '(', ')', '|', '[', ']', '\x7b', '\x7d', '^', '$',
      '#', '&', '-', '~'].all fun c => !c.isDigit && isEscapable c) = true := rfl
  obtain ⟨hdigit, hescapable⟩ : c.isDigit = false ∧ isEscapable c = true := by
    simpa using List.all_eq_true.mp hall c (List.contains_iff_mem.mp h)
  have hescape : escape s.flags.verbose (c :: rest) = .ok (.char c, rest) := by
    unfold escape
    simp only [hdigit, hescapable, Bool.false_eq_true, if_false, if_true]
  simp only [step, hescape]

theorem step_of_plain (s : State) {c : Char} (h : isPatternMeta c = false) (rest : List Char) :
    step s c rest = .ok (s.addSet (charSet s.flags c) 0, rest) := by
  unfold step
  split
  case h_13 => rfl
  all_goals exact absurd h (by decide)

theorem addSet_readPieces (pieces : List Piece) (c : Char) :
    (readPieces pieces).addSet (charSet (readPieces pieces).flags c) 0 =
      readPieces (charPiece c :: pieces) := by
  have hset : charSet (readPieces pieces).flags c = .single c := rfl
  rw [hset, State.addSet, ofSet_single]
  rfl

theorem readFrom_of_step {pieces : List Piece} {c : Char} {rest rest' : List Char} {s : State}
    (h : step (readPieces pieces) c rest = .ok (s, rest')) (fuel : Nat) :
    readFrom (fuel + 1) (readPieces pieces) (c :: rest) = readFrom fuel s rest' := by
  have hskip : skip (readPieces pieces).flags.verbose (c :: rest) = c :: rest := rfl
  rw [readFrom.eq_def]
  simp only [hskip, h]

/-- One round reads one character of the text, with its backslash if it has one. -/
theorem readFrom_char (fuel : Nat) (pieces : List Piece) (c : Char) (rest : List Char) :
    readFrom (fuel + 1) (readPieces pieces)
        ((if isPatternMeta c then ['\\', c] else [c]) ++ rest) =
      readFrom fuel (readPieces (charPiece c :: pieces)) rest := by
  have hset := addSet_readPieces pieces c
  cases hmeta : isPatternMeta c with
  | true => exact readFrom_of_step (hset ▸ step_of_meta (readPieces pieces) hmeta rest) fuel
  | false => exact readFrom_of_step (hset ▸ step_of_plain (readPieces pieces) hmeta rest) fuel

theorem readFrom_escape (fuel : Nat) (pieces : List Piece) (cs rest : List Char) :
    readFrom (cs.length + fuel) (readPieces pieces) (escapePattern cs ++ rest) =
      readFrom fuel (readPieces ((cs.map charPiece).reverse ++ pieces)) rest := by
  induction cs generalizing pieces with
  | nil => simp [escapePattern]
  | cons c cs ih =>
    have hlength : (c :: cs).length + fuel = cs.length + fuel + 1 := by
      rw [List.length_cons]; omega
    rw [escapePattern, List.flatMap_cons, ← escapePattern, List.append_assoc, hlength,
      readFrom_char, ih]
    simp

end Reader

/-- The text between the start and the end. -/
def literalExpr : List Char → Expr
  | [] => .seq (.assert .textStart) (.assert .textEnd)
  | cs => .seq (.assert .textStart) (.seq (.text cs) (.assert .textEnd))

theorem joinTexts_chars (c : Char) (cs : List Char) (a : Assertion) :
    Expr.joinTexts ((c :: cs).map (fun c => .text [c]) ++ [.assert a]) =
      [.text (c :: cs), .assert a] := by
  induction cs generalizing c with
  | nil => rfl
  | cons d cs ih =>
    rw [List.map_cons, List.cons_append, Expr.joinTexts, ih]
    rfl

theorem sequence_literal (cs : List Char) :
    Expr.sequence (.assert .textStart :: (cs.map (fun c => .text [c]) ++ [.assert .textEnd])) =
      literalExpr cs := by
  have hitems : (Expr.assert .textStart :: (cs.map (fun c => Expr.text [c]) ++
      [.assert .textEnd])).flatMap Expr.items =
      .assert .textStart :: (cs.map (fun c => .text [c]) ++ [.assert .textEnd]) := by
    rw [List.flatMap_cons, List.flatMap_append, List.flatMap_map]
    have hchars : cs.flatMap (fun c => (Expr.text [c]).items) = cs.map fun c => .text [c] := by
      induction cs with
      | nil => rfl
      | cons c cs ih => exact congrArg (Expr.text [c] :: ·) ih
    rw [hchars]
    rfl
  rw [Expr.sequence, hitems, Expr.joinTexts]
  · cases cs with
    | nil => rfl
    | cons c cs => rw [joinTexts_chars]; rfl
  · intro cs h
    cases h

namespace Reader

theorem depthAround_eq_one {pieces : List Piece} (h : ∀ p ∈ pieces, p.depth = 0) :
    Piece.depthAround pieces = 1 := by
  have hfold : (pieces.map Piece.depth).foldl max 0 = 0 := by
    induction pieces with
    | nil => rfl
    | cons p pieces ih =>
      obtain ⟨hp, hpieces⟩ := List.forall_mem_cons.mp h
      rw [List.map_cons, List.foldl_cons, hp]
      exact ih hpieces
  rw [Piece.depthAround, hfold]

/-- The pieces of the pattern of a text. -/
def literalPieces (cs : List Char) : List Piece :=
  assertionPiece .textStart :: (cs.map charPiece ++ [assertionPiece .textEnd])

theorem value_literalPieces (cs : List Char) :
    (readPieces (literalPieces cs).reverse).here.value =
      { expr := literalExpr cs, depth := 1 } := by
  have hdepth : Piece.depthAround (literalPieces cs) = 1 := by
    refine depthAround_eq_one fun p hp => ?_
    rcases List.mem_cons.mp hp with rfl | hp
    · rfl
    · rcases List.mem_append.mp hp with hp | hp
      · obtain ⟨c, -, rfl⟩ := List.mem_map.mp hp
        rfl
      · rw [List.mem_singleton.mp hp]
        rfl
  have hexpr : (literalPieces cs).map Piece.expr =
      .assert .textStart :: (cs.map (fun c => .text [c]) ++ [.assert .textEnd]) := by
    simp [literalPieces, charPiece, assertionPiece]
  have hparts : (readPieces (literalPieces cs).reverse).here.parts.reverse.map Part.value =
      literalPieces cs := by
    simp only [readPieces, List.map_reverse, List.reverse_reverse, List.map_map]
    exact List.map_id _
  have hpieces : Piece.sequence (literalPieces cs) =
      { expr := .sequence ((literalPieces cs).map Piece.expr)
        depth := Piece.depthAround (literalPieces cs) } := by
    unfold literalPieces
    cases cs <;> rfl
  have hvalue : (readPieces (literalPieces cs).reverse).here.value =
      Piece.sequence ((readPieces (literalPieces cs).reverse).here.parts.reverse.map Part.value) :=
    rfl
  rw [hvalue, hparts, hpieces, hexpr, hdepth, sequence_literal]

theorem readFrom_literal (cs : List Char) :
    readFrom ('^' :: (escapePattern cs ++ ['$'])).length {} ('^' :: (escapePattern cs ++ ['$'])) =
      .ok (readPieces (literalPieces cs).reverse) := by
  have hlength : cs.length ≤ (escapePattern cs).length := by
    induction cs with
    | nil => exact Nat.le_refl 0
    | cons c cs ih =>
      rw [escapePattern, List.flatMap_cons, ← escapePattern, List.length_append, List.length_cons]
      split <;> simp only [List.length_cons, List.length_nil] <;> omega
  obtain ⟨extra, hextra⟩ := Nat.exists_eq_add_of_le hlength
  have hfuel : ('^' :: (escapePattern cs ++ ['$'])).length = cs.length + (extra + 1) + 1 := by
    rw [List.length_cons, List.length_append, hextra]; rfl
  have hcaret : ∀ rest, step (readPieces []) '^' rest =
      .ok (readPieces [assertionPiece .textStart], rest) := fun _ => rfl
  have hdollar : ∀ pieces, step (readPieces pieces) '$' [] =
      .ok (readPieces (assertionPiece .textEnd :: pieces), []) := fun _ => rfl
  have hend : ∀ s : State, readFrom extra s [] = .ok s := by
    intro s
    have hskip : skip s.flags.verbose [] = [] := by cases s.flags.verbose <;> rfl
    rw [readFrom.eq_def, hskip]
  rw [hfuel, show ({} : State) = readPieces [] from rfl, readFrom_of_step (hcaret _),
    readFrom_escape, readFrom_of_step (hdollar _), hend]
  simp [literalPieces]

theorem read_literal (cs : List Char) :
    read ('^' :: (escapePattern cs ++ ['$'])) =
      if (literalExpr cs).fits then .ok (literalExpr cs) else .error .tooLarge := by
  rw [read, readFrom_literal]
  simp only [value_literalPieces]
  rfl

end Reader

/-! ## Room -/

/-- A footprint of states that hold nothing. -/
def Footprint.plain (n : Nat) : Footprint := { states := n }

theorem Footprint.grow_plain (n k : Nat) :
    (plain n).grow k 0 0 = if n + k ≤ 327680 then some (plain (n + k)) else none := by
  have hbytes : ((plain n).add k 0 0).bytes = (n + k) * 32 := by
    simp [plain, add, bytes, stateSize]
  rw [grow, checked, hbytes, limit]
  split <;> split <;> first | rfl | omega

/-- The layout adds `k` states that hold nothing, where there is room. -/
def Layout.AddsStates (l : Layout) (k : Nat) : Prop :=
  ∀ n, l (.plain n) = if n + k ≤ 327680 then some (.plain (n + k), false) else none

namespace Layout.AddsStates

variable {a b : Layout} {j k : Nat}

theorem states (k : Nat) : (Layout.states k).AddsStates k := by
  intro n
  rw [Layout.states, Footprint.grow_plain]
  split <;> rfl

theorem settle (h : a.AddsStates k) :
    AddsStates (fun f => a f >>= Place.alone.settle) k := by
  intro n
  simp only [h n]
  split <;> rfl

theorem followedBy (ha : a.AddsStates j) (hb : b.AddsStates k) :
    (a.followedBy b).AddsStates (j + k) := by
  intro n
  simp only [Layout.followedBy, ha n]
  split
  · have hgrow : (Footprint.plain (n + j)).grow 0 (Loops.alternatives false) 0 =
        some (.plain (n + j)) := by
      rw [show Loops.alternatives false = 0 from rfl, Footprint.grow_plain, if_pos (by omega)]
      rfl
    simp only [Option.bind_eq_bind, Option.bind_some, hgrow, hb (n + j), Nat.add_assoc]
  · rw [if_neg (by omega)]
    rfl

end Layout.AddsStates

/-- The bytes of the characters, as an automaton reads them. -/
def byteCount (cs : List Char) : Nat := (Expr.bytesOf .forwards cs).length

theorem length_bytesOf (d : Direction) (cs : List Char) :
    (Expr.bytesOf d cs).length = byteCount cs := by
  cases d with
  | forwards => rfl
  | backwards => exact List.length_reverse

namespace Expr

theorem layOut_assert (d : Direction) (a : Assertion) :
    ((assert a).layOut d .alone).AddsStates 1 := (Layout.AddsStates.states 1).settle

theorem layOut_text (d : Direction) (cs : List Char) :
    ((text cs).layOut d .alone).AddsStates (byteCount cs) := by
  rw [← length_bytesOf d cs]
  exact (Layout.AddsStates.states _).settle

theorem layOut_seq {d : Direction} {a b : Expr} {j k : Nat}
    (ha : (a.layOut d .alone).AddsStates j) (hb : (b.layOut d .alone).AddsStates k) :
    ((seq a b).layOut d .alone).AddsStates (j + k) := by
  cases d with
  | forwards => exact (ha.followedBy hb).settle
  | backwards => exact Nat.add_comm j k ▸ (hb.followedBy ha).settle

theorem layOut_literal (d : Direction) (cs : List Char) :
    ((literalExpr cs).layOut d .alone).AddsStates (byteCount cs + 2) := by
  cases cs with
  | nil =>
    have h := layOut_seq (layOut_assert d .textStart) (layOut_assert d .textEnd)
    exact h
  | cons c cs =>
    have h := layOut_seq (layOut_assert d .textStart)
      (layOut_seq (layOut_text d (c :: cs)) (layOut_assert d .textEnd))
    rwa [Nat.add_comm 1, Nat.add_assoc] at h

theorem isSome_guarded {α : Type} {p : Prop} [Decidable p] (a : α) :
    (if p then some a else none).isSome = decide p := by
  split <;> simp [*]

theorem isSome_bind_guarded {α β : Type} {p : Prop} [Decidable p] (a : α) (f : α → Option β) :
    ((if p then some a else none).bind f).isSome = (decide p && (f a).isSome) := by
  split <;> simp [*]

/-- The automata of the pattern of a text have room as long as the text takes no more bytes. -/
theorem fits_literal (cs : List Char) :
    (literalExpr cs).fits = decide (byteCount cs ≤ 327674) := by
  have hstart : startOf (literalExpr cs).startsText = some (.plain 1) := by cases cs <;> rfl
  have hend : startOf (literalExpr cs).endsText = some (.plain 1) := by cases cs <;> rfl
  have hloops : Loops.alternatives false = 0 := rfl
  have hforwards : ((literalExpr cs).footprint .forwards).isSome =
      decide (byteCount cs ≤ 327674) := by
    simp only [footprint, hstart, Layout.group, Option.pure_def, Option.bind_eq_bind,
      Option.bind_some, Option.bind_assoc, Footprint.grow_plain, layOut_literal .forwards cs _,
      hloops, isSome_bind_guarded, isSome_guarded, ← Bool.decide_and]
    exact decide_eq_decide.mpr (by omega)
  have hbackwards : ((literalExpr cs).footprint .backwards).isSome =
      decide (byteCount cs ≤ 327676) := by
    simp only [footprint, hend, Option.bind_eq_bind, Option.bind_some, Footprint.grow_plain,
      layOut_literal .backwards cs _, hloops, isSome_bind_guarded, isSome_guarded,
      ← Bool.decide_and]
    exact decide_eq_decide.mpr (by omega)
  rw [fits, hforwards, hbackwards, ← Bool.decide_and]
  exact decide_eq_decide.mpr ⟨And.left, fun h => ⟨h, by omega⟩⟩

end Expr

theorem byteCount_eq (cs : List Char) : byteCount cs = (String.ofList cs).utf8ByteSize := by
  have hbytes : ∀ c : Char, (Text.utf8Bytes c.toNat).length = (String.utf8EncodeChar c).length := by
    intro c
    rw [Text.utf8Bytes, Char.ofNat_toNat, List.length_map]
  rw [← String.size_toByteArray, String.toByteArray_ofList, List.utf8Encode,
    List.size_toByteArray, byteCount, Expr.bytesOf, List.length_flatMap, List.length_flatMap]
  simp only [hbytes]

/-! ## The program -/

/-- Takes characters one by one; the first instruction has the address `start`. -/
def charCode (start : Nat) : List Char → List Instr
  | [] => []
  | c :: cs => .one (.single c) (start + 1) :: charCode (start + 1) cs

theorem length_charCode (start : Nat) (cs : List Char) :
    (charCode start cs).length = cs.length := by
  induction cs generalizing start with
  | nil => rfl
  | cons c cs ih => rw [charCode, List.length_cons, ih, List.length_cons]

theorem getElem?_charCode (start : Nat) (cs : List Char) (i : Nat) :
    (charCode start cs)[i]? = cs[i]?.map fun c => .one (.single c) (start + i + 1) := by
  induction cs generalizing start i with
  | nil => rfl
  | cons c cs ih =>
    cases i with
    | zero => rfl
    | succ i =>
      rw [charCode, List.getElem?_cons_succ, List.getElem?_cons_succ, ih,
        Nat.add_right_comm start 1 i]
      rfl

namespace Regex

/-- The expression of some characters one after the other. -/
def chars (cs : List Char) : Regex := seqAll (cs.map fun c => one (.single c))

theorem size_chars (c : Char) (cs : List Char) : (chars (c :: cs)).size = cs.length + 1 := by
  induction cs generalizing c with
  | nil => rfl
  | cons d cs ih =>
    show 1 + (chars (d :: cs)).size = _
    rw [ih, List.length_cons]
    omega

theorem code_chars (c : Char) (cs : List Char) (start : Nat) :
    (chars (c :: cs)).code start (start + (cs.length + 1)) = charCode start (c :: cs) := by
  induction cs generalizing c start with
  | nil => rfl
  | cons d cs ih =>
    have hnext : start + ((d :: cs).length + 1) = start + 1 + (cs.length + 1) := by
      rw [List.length_cons]; omega
    show Instr.one (.single c) (start + 1) :: (chars (d :: cs)).code (start + 1) _ = _
    rw [hnext, ih]
    rfl

end Regex

/-- The program of the pattern of a text. -/
def literalProgram (cs : List Char) : List Instr :=
  .assert .textStart 1 :: (charCode 1 cs ++ [.assert .textEnd (cs.length + 2), .accept])

theorem program_literal (cs : List Char) :
    (literalExpr cs).regex.program = (literalProgram cs).toArray := by
  cases cs with
  | nil => rfl
  | cons c cs =>
    have hsize : (literalExpr (c :: cs)).regex.size = 1 + ((Regex.chars (c :: cs)).size + 1) := rfl
    have hcode : (literalExpr (c :: cs)).regex.code 0 (literalExpr (c :: cs)).regex.size =
        .assert .textStart 1 ::
          ((Regex.chars (c :: cs)).code 1 (1 + (Regex.chars (c :: cs)).size) ++
            [.assert .textEnd (literalExpr (c :: cs)).regex.size]) := rfl
    rw [Regex.program, hcode, hsize, Regex.size_chars, Regex.code_chars, literalProgram,
      List.length_cons]
    congr 1
    simp
    omega

section

variable {cs : List Char} {i : Nat}

theorem getElem?_literalProgram_char {c : Char} (h : cs[i]? = some c) :
    (literalProgram cs).toArray[i + 1]? = some (.one (.single c) (i + 2)) := by
  have hi : i < cs.length := (List.getElem?_eq_some_iff.mp h).1
  rw [List.getElem?_toArray, literalProgram, List.getElem?_cons_succ,
    List.getElem?_append_left (by rw [length_charCode]; exact hi), getElem?_charCode, h,
    Option.map_some, Nat.add_comm 1 i]

theorem getElem?_literalProgram_end :
    (literalProgram cs).toArray[cs.length + 1]? = some (.assert .textEnd (cs.length + 2)) := by
  rw [List.getElem?_toArray, literalProgram, List.getElem?_cons_succ,
    List.getElem?_append_right (Nat.le_of_eq (length_charCode 1 cs)), length_charCode, Nat.sub_self]
  rfl

theorem getElem?_literalProgram_accept :
    (literalProgram cs).toArray[cs.length + 2]? = some .accept := by
  rw [List.getElem?_toArray, literalProgram, List.getElem?_cons_succ,
    List.getElem?_append_right (by rw [length_charCode]; omega), length_charCode,
    Nat.add_sub_cancel_left]
  rfl

end

/-! ## Matching -/

theorem has_single (c d : Char) : (CharSet.single c).has d = true ↔ d = c := by
  simp only [CharSet.has, CharSet.single, Unicode.Ranges.has]
  constructor
  · intro h
    split at h
    · rename_i hle
      exact Char.toNat_inj.mp (Nat.le_antisymm hle (of_decide_eq_true h))
    · cases h
  · rintro rfl
    rw [if_pos (Nat.le_refl _)]
    exact decide_eq_true (Nat.le_refl _)

/-- The threads of a search for `cs` in a text, from a start: one that was taken no further; one
that found the first `i` characters from the start of the text on; or one that found all of them and
the end of the text. -/
inductive Along (cs text : List Char) (start : Nat) : Thread → Prop where
  | start : Along cs text start ⟨0, start, []⟩
  | found (i : Nat) : i ≤ cs.length → text.take i = cs.take i → i ≤ text.length →
      Along cs text start ⟨i + 1, i, []⟩
  | done : text = cs → Along cs text start ⟨cs.length + 2, cs.length, []⟩

theorem Along.successor {cs text : List Char} {start : Nat} {t u : Thread}
    (h : Along cs text start t)
    (hu : u ∈ successors (literalProgram cs).toArray text.toArray t) : Along cs text start u := by
  cases h with
  | start =>
    have hinstr : (literalProgram cs).toArray[0]? = some (.assert .textStart 1) := rfl
    simp only [successors, hinstr, Assertion.holds, beq_iff_eq] at hu
    split at hu
    · rename_i hstart
      subst hstart
      rw [List.mem_singleton.mp hu]
      exact .found 0 (Nat.zero_le _) rfl (Nat.zero_le _)
    · cases hu
  | found i hi htake htext =>
    rcases Nat.lt_or_eq_of_le hi with hlt | rfl
    · have hinstr := getElem?_literalProgram_char (List.getElem?_eq_getElem hlt)
      simp only [successors, hinstr, List.getElem?_toArray] at hu
      cases hc : text[i]? with
      | none => simp [hc] at hu
      | some d =>
        simp only [hc] at hu
        split at hu
        · rename_i hhas
          have hd : text[i]? = cs[i]? := by
            rw [hc, List.getElem?_eq_getElem hlt, (has_single _ _).mp hhas]
          rw [List.mem_singleton.mp hu]
          refine .found (i + 1) hlt ?_ (List.getElem?_eq_some_iff.mp hc).1
          rw [List.take_add_one, List.take_add_one, htake, hd]
        · cases hu
    · simp only [successors, getElem?_literalProgram_end, Assertion.holds, List.size_toArray,
        beq_iff_eq] at hu
      split at hu
      · rename_i hend
        rw [List.mem_singleton.mp hu]
        refine .done ?_
        rwa [List.take_of_length_le (Nat.le_of_eq hend.symm), List.take_length] at htake
      · cases hu
  | done _ =>
    simp only [successors, getElem?_literalProgram_accept] at hu
    cases hu

theorem Along.of_leads {cs text : List Char} {start : Nat} {t : Thread}
    (h : Leads (literalProgram cs).toArray text.toArray ⟨0, start, []⟩ t) :
    Along cs text start t := by
  induction h with
  | refl => exact .start
  | tail _ hstep ih => exact ih.successor hstep

/-- A thread that accepts has found the whole text, and has no marks. -/
theorem Along.of_accepts {cs text : List Char} {start : Nat} {t : Thread}
    (h : Along cs text start t) (haccepts : t.Accepts (literalProgram cs).toArray) :
    text = cs ∧ t.marks = [] := by
  unfold Thread.Accepts at haccepts
  cases h with
  | start => cases haccepts
  | found i hi _ _ =>
    rcases Nat.lt_or_eq_of_le hi with hlt | rfl
    · rw [getElem?_literalProgram_char (List.getElem?_eq_getElem hlt)] at haccepts
      cases haccepts
    · rw [getElem?_literalProgram_end] at haccepts
      cases haccepts
  | done htext => exact ⟨htext, rfl⟩

theorem leads_found (cs : List Char) {i : Nat} (hi : i ≤ cs.length) :
    Leads (literalProgram cs).toArray cs.toArray ⟨0, 0, []⟩ ⟨i + 1, i, []⟩ := by
  induction i with
  | zero => exact .single (List.mem_singleton_self _)
  | succ i ih =>
    refine .tail (ih (Nat.le_of_succ_le hi)) ?_
    have hc : cs[i]? = some cs[i] := List.getElem?_eq_getElem hi
    have hhas : (CharSet.single cs[i]).has cs[i] = true := (has_single _ _).mpr rfl
    simp only [successors, getElem?_literalProgram_char hc, List.getElem?_toArray, hc, hhas,
      if_true]
    exact List.mem_singleton_self _

theorem leads_done (cs : List Char) :
    Leads (literalProgram cs).toArray cs.toArray ⟨0, 0, []⟩ ⟨cs.length + 2, cs.length, []⟩ := by
  refine .tail (leads_found cs (Nat.le_refl _)) ?_
  have hend : Assertion.textEnd.holds cs.toArray cs.length = true := by
    simp [Assertion.holds]
  simp only [successors, getElem?_literalProgram_end, hend, if_true]
  exact List.mem_singleton_self _

/-- The pattern of a text is found in that text alone, and marks nothing. -/
theorem search_literal (cs text : List Char) :
    search (literalProgram cs).toArray text.toArray = if text = cs then some [] else none := by
  cases hsearch : search (literalProgram cs).toArray text.toArray with
  | some marks =>
    obtain ⟨start, -, t, hleads, haccepts, rfl⟩ := search_eq_some hsearch
    obtain ⟨htext, hmarks⟩ := (Along.of_leads hleads).of_accepts haccepts
    rw [if_pos htext, hmarks]
  | none =>
    rw [if_neg]
    rintro rfl
    have hclosed : Closed (literalProgram text).toArray :=
      program_literal text ▸ (literalExpr text).regex.program_closed
    exact search_eq_none hclosed (by simp [literalProgram]) hsearch (Nat.zero_le _)
      (leads_done text) getElem?_literalProgram_accept

theorem groups_literal (cs : List Char) : (literalExpr cs).regex.groups = 0 := by
  have hchars : ∀ cs, (Regex.chars cs).groups = 0 := by
    intro cs
    induction cs with
    | nil => rfl
    | cons c cs ih =>
      cases cs with
      | nil => rfl
      | cons d cs => exact (Nat.zero_max _).trans ih
  cases cs with
  | nil => rfl
  | cons c cs =>
    show max 0 (max (Regex.chars (c :: cs)).groups 0) = 0
    rw [hchars]
    rfl

end Pattern

open Pattern

/-- The compiled pattern of a text. -/
def literalStep (text : String) : StepPattern :=
  ⟨literalPattern text, (literalExpr (Text.trim text.toList)).regex⟩

/-- The pattern of a text is accepted exactly if the trimmed text takes no more bytes. -/
theorem compile_literal (text : String) :
    StepPattern.compile (literalPattern text) =
      if (Text.trimmed text).utf8ByteSize ≤ 327674 then .ok (literalStep text)
      else .error ⟨literalPattern text, .tooLarge⟩ := by
  have hread : Reader.read (literalPattern text).toList =
      if (literalExpr (Text.trim text.toList)).fits then
        .ok (literalExpr (Text.trim text.toList))
      else .error .tooLarge := by
    rw [literalPattern, String.toList_ofList, Reader.read_literal]
  rw [Expr.fits_literal, byteCount_eq] at hread
  rw [StepPattern.compile, hread, Text.trimmed]
  by_cases hfits : (String.ofList (Text.trim text.toList)).utf8ByteSize ≤ 327674
  · rw [if_pos hfits, if_pos (decide_eq_true hfits)]
    rfl
  · rw [if_neg hfits, if_neg fun h => hfits (of_decide_eq_true h)]

/-- The pattern of a text matches the trimmed text and nothing else, and captures nothing. -/
theorem literal_captures (text probe : String) :
    (literalStep text).captures probe = if probe = Text.trimmed text then some [] else none := by
  have hsearch : search (literalStep text).regex.program probe.toList.toArray =
      if probe.toList = Text.trim text.toList then some [] else none := by
    rw [← search_literal, ← program_literal]
    rfl
  have hgroups : (literalStep text).groups = 0 := groups_literal _
  have hprobe : probe.toList = Text.trim text.toList ↔ probe = Text.trimmed text := by
    rw [Text.trimmed, ← String.toList_inj, String.toList_ofList]
  simp only [StepPattern.captures, hsearch, hgroups, hprobe]
  split <;> rfl

end FeatureScript
