import FeatureScript.Proofs.Pattern.Literal
import FeatureScript.Proofs.Unicode.Case

/-!
# FeatureScript.Proofs.Grammar.Patterns

The line grammar as two patterns.

`headingSource` and `stepSource` describe headings and steps as patterns do. Both open with white
space and one of some words, and end in a payload (`lineExpr`). They are read as they are meant
(`read_heading`, `read_step`): the words letter by letter (`reads_words`), since the set of a letter
is known from the table of the foldings, and the text around them by computation.
-/

namespace FeatureScript

open Pattern

namespace Pattern
namespace Reader

/-! ## Reading a part of a pattern -/

section

variable {s s' s'' : State} {c : Char} {cs ds rest : List Char}

/-- With `rest` behind it, this part of a pattern takes the reader from one state to the other, in
no more rounds than it has characters. -/
def Reads (s : State) (cs rest : List Char) (s' : State) : Prop :=
  ∃ n ≤ cs.length, ∀ fuel, readFrom (fuel + n) s (cs ++ rest) = readFrom fuel s' rest

theorem Reads.refl (s : State) (rest : List Char) : Reads s [] rest s :=
  ⟨0, Nat.le_refl 0, fun _ => rfl⟩

theorem Reads.append (h : Reads s cs (ds ++ rest) s') (h' : Reads s' ds rest s'') :
    Reads s (cs ++ ds) rest s'' := by
  obtain ⟨m, hm, h⟩ := h
  obtain ⟨n, hn, h'⟩ := h'
  refine ⟨n + m, by rw [List.length_append]; omega, fun fuel => ?_⟩
  rw [List.append_assoc, ← Nat.add_assoc, h, h']

theorem Reads.of_step (hverbose : s.flags.verbose = false) (h : step s c rest = .ok (s', rest)) :
    Reads s [c] rest s' := by
  refine ⟨1, Nat.le_refl 1, fun fuel => ?_⟩
  have hskip : skip s.flags.verbose (c :: rest) = c :: rest := by rw [hverbose]; rfl
  rw [List.singleton_append, readFrom.eq_def]
  simp only [hskip, h]

theorem Reads.readFrom (h : Reads s cs [] s') : readFrom cs.length s cs = .ok s' := by
  have hskip : skip s'.flags.verbose [] = [] := by cases s'.flags.verbose <;> rfl
  obtain ⟨n, hn, h⟩ := h
  have hend := h (cs.length - n)
  rwa [List.append_nil, Nat.sub_add_cancel hn, readFrom.eq_def (cs.length - n), hskip] at hend

/-! ## Words -/

/-- The piece that a letter is read as, where case makes no difference. -/
def letterPiece (c : Char) : Piece := { expr := .one (caseless c) }

namespace Branches

def word (b : Branches) (w : List Char) : Branches :=
  w.foldl (fun b c => b.push (.piece (letterPiece c))) b

/-- The branches after words with bars between them were read. -/
def words (b : Branches) : List (List Char) → Branches
  | [] => b
  | [w] => b.word w
  | w :: ws => (b.word w).bar.words ws

end Branches

theorem step_of_letter (hfolding : s.flags.folding = true) (hc : c ∈ nameLetters)
    (rest : List Char) : step s c rest = .ok (s.push (letterPiece c), rest) := by
  have hplain : isPatternMeta c = false :=
    forall_nameLetters (P := fun c => isPatternMeta c = false) (by decide) hc
  have hset : Expr.ofSet (charSet s.flags c) = .one (caseless c) := by
    rw [charSet, hfolding, CharSet.foldIf, if_pos rfl, folded_single hc]
    rfl
  rw [step_of_plain s hplain, State.addSet, hset]
  rfl

theorem reads_word (hfolding : s.flags.folding = true) (hverbose : s.flags.verbose = false)
    {w : List Char} (hw : ∀ c ∈ w, c ∈ nameLetters) (rest : List Char) :
    Reads s w rest { s with here := s.here.word w } := by
  induction w generalizing s with
  | nil => exact .refl s rest
  | cons c w ih =>
    obtain ⟨hc, hw⟩ := List.forall_mem_cons.mp hw
    have hletter : Reads s [c] (w ++ rest) (s.push (letterPiece c)) :=
      .of_step hverbose (step_of_letter hfolding hc _)
    exact hletter.append (ih hfolding hverbose hw)

theorem reads_words (hfolding : s.flags.folding = true) (hverbose : s.flags.verbose = false)
    {ws : List (List Char)} (hws : Words ws) (rest : List Char) :
    Reads s (['|'].intercalate ws) rest { s with here := s.here.words ws } := by
  induction ws generalizing s with
  | nil => exact .refl s rest
  | cons w ws ih =>
    obtain ⟨hw, hws⟩ := List.forall_mem_cons.mp hws
    cases ws with
    | nil =>
      rw [List.intercalate_singleton]
      exact reads_word hfolding hverbose hw.2 rest
    | cons v ws =>
      have hbar : Reads { s with here := s.here.word w } ['|'] (['|'].intercalate (v :: ws) ++ rest)
          { s with here := (s.here.word w).bar } := .of_step hverbose rfl
      rw [List.intercalate_cons_cons]
      exact ((reads_word hfolding hverbose hw.2 _).append (by simpa using hbar)).append
        (ih (s := { s with here := (s.here.word w).bar }) hfolding hverbose hws)

end

end Reader

/-! ## The two patterns -/

/-- The pattern of headings, as it is written. -/
def headingSource : String := "(?i)^\\s*(feature|scenario)\\s*:\\s*(.+)$"

/-- The pattern of steps, as it is written. -/
def stepSource : String := "(?i)^\\s*(given|when|then|and|but)\\s+(.+)$"

def wordExpr (w : List Char) : Expr := .ofItems (w.map fun c => .one (caseless c))

def blanksExpr (least : Nat) : Expr := .rounds true (.one .blank) least none

/-- Everything but a line feed. -/
def dot : CharSet := ⟨[(0, 9), (11, 0x10FFFF)]⟩

def payloadExprs : List Expr := [.group 2 (.rounds true (.one dot) 1 none), .assert .textEnd]

/-- White space, one of the words, something between, and the payload. -/
def lineExpr (ws : List (List Char)) (between : List Expr) : Expr :=
  .ofItems (.assert .textStart :: blanksExpr 0 :: .group 1 (.ofBranches (ws.map wordExpr)) ::
    (between ++ payloadExprs))

def headingWords : List (List Char) := ["feature".toList, "scenario".toList]

def stepWords : List (List Char) := Keyword.all.map fun k => k.lowerName.toList

theorem words_heading : Words headingWords := by decide

theorem words_step : Words stepWords := by decide

def headingExpr : Expr := lineExpr headingWords [blanksExpr 0, .text [':'], blanksExpr 0]

def stepExpr : Expr := lineExpr stepWords [blanksExpr 1]

namespace Reader

/-- The state in which blanks were read behind the start, where case makes no difference. -/
def startState : State where
  here := { parts := [.piece ⟨blanksExpr 0, 1⟩, .piece ⟨.assert .textStart, 0⟩, .flags] }
  flags := { folding := true }

/-- The state in which a group of words was read after this. -/
def wordsState (ws : List (List Char)) : State where
  here := startState.here.push (.piece ⟨.group 1 (.ofBranches (ws.map wordExpr)), 3⟩)
  flags := { folding := true }
  groups := 1

theorem openGroup_of_ne {s : State} {c : Char} (hverbose : s.flags.verbose = false) (hc : c ≠ '?')
    (rest : List Char) : openGroup s (c :: rest) = .ok (s.enterCapture, c :: rest) := by
  have hskip : skip s.flags.verbose (c :: rest) = c :: rest := by rw [hverbose]; rfl
  rw [openGroup, hskip]
  split <;> simp_all

section

variable {ws : List (List Char)} (hws : ws = headingWords ∨ ws = stepWords)
include hws

theorem step_words (rest : List Char) :
    step { startState.enterCapture with here := .words {} ws } ')' rest =
      .ok (wordsState ws, rest) := by
  rcases hws with rfl | rfl <;> rfl

/-- What both patterns open with. -/
theorem reads_front (rest : List Char) :
    Reads {} (['(', '?', 'i', ')', '^', '\\', 's', '*', '('] ++ ['|'].intercalate ws ++ [')']) rest
      (wordsState ws) := by
  have hwords : Words ws := by
    rcases hws with rfl | rfl
    · exact words_heading
    · exact words_step
  -- Not a question mark, so the bracket opens a group that captures.
  obtain ⟨c, cs, hhead, hc⟩ : ∃ c cs, ['|'].intercalate ws = c :: cs ∧ c ≠ '?' := by
    rcases hws with rfl | rfl <;> exact ⟨_, _, rfl, by decide⟩
  have hstart : Reads {} ['(', '?', 'i', ')', '^', '\\', 's', '*']
      (['('] ++ (['|'].intercalate ws ++ ([')'] ++ rest))) startState :=
    ⟨4, by decide, fun _ => rfl⟩
  have hopen : Reads startState ['('] (['|'].intercalate ws ++ ([')'] ++ rest))
      startState.enterCapture := by
    rw [hhead]
    exact .of_step rfl (openGroup_of_ne rfl hc _)
  exact ((hstart.append hopen).append (reads_words rfl rfl hwords _)).append
    (.of_step rfl (step_words hws rest))

end

theorem step_colon {s : State} (hfolding : s.flags.folding = true) (rest : List Char) :
    step s ':' rest = .ok (s.push { expr := .text [':'] }, rest) := by
  rw [step_of_plain s (by decide), State.addSet, charSet, hfolding, CharSet.foldIf, if_pos rfl,
    folded_colon, ofSet_single]

/-- The pieces that the payload is read as, with their depths. -/
def payloadPieces : List Piece := List.zipWith Piece.mk payloadExprs [2, 0]

/-- The state in which a pattern was read. -/
def lineState (ws : List (List Char)) (between : List Piece) : State where
  here.parts := (between ++ payloadPieces).reverse.map .piece ++ (wordsState ws).here.parts
  flags := { folding := true }
  groups := 2

theorem read_line {ws : List (List Char)} {between : List Piece} {cs : List Char} {p : Piece}
    (h : Reads {} cs [] (lineState ws between)) (hvalue : (lineState ws between).here.value = p)
    (hdepth : p.depth ≤ depthLimit) (hfits : p.expr.fits) : read cs = .ok p.expr := by
  rw [read, h.readFrom]
  show (if depthLimit < (lineState ws between).here.value.depth then Except.error Fault.tooDeep
    else _) = _
  rw [hvalue, if_neg (Nat.not_lt.mpr hdepth), if_pos hfits]

theorem read_heading : read headingSource.toList = .ok headingExpr := by
  have hfront := reads_front (.inl rfl)
    ['\\', 's', '*', ':', '\\', 's', '*', '(', '.', '+', ')', '$']
  have hblanks : Reads (wordsState headingWords) ['\\', 's', '*']
      [':', '\\', 's', '*', '(', '.', '+', ')', '$']
      ((wordsState headingWords).push ⟨blanksExpr 0, 1⟩) := ⟨2, by decide, fun _ => rfl⟩
  have hcolon := Reads.of_step rfl
    (step_colon (s := (wordsState headingWords).push ⟨blanksExpr 0, 1⟩) rfl
      ['\\', 's', '*', '(', '.', '+', ')', '$'])
  have hend : Reads
      (((wordsState headingWords).push ⟨blanksExpr 0, 1⟩).push { expr := .text [':'] })
      ['\\', 's', '*', '(', '.', '+', ')', '$'] []
      (lineState headingWords [⟨blanksExpr 0, 1⟩, { expr := .text [':'] }, ⟨blanksExpr 0, 1⟩]) :=
    ⟨7, by decide, fun _ => rfl⟩
  exact read_line (((hfront.append hblanks).append hcolon).append hend) rfl (by decide)
    (by decide +kernel)

theorem read_step : read stepSource.toList = .ok stepExpr := by
  have hfront := reads_front (.inr rfl) ['\\', 's', '+', '(', '.', '+', ')', '$']
  have hend : Reads (wordsState stepWords) ['\\', 's', '+', '(', '.', '+', ')', '$'] []
      (lineState stepWords [⟨blanksExpr 1, 1⟩]) := ⟨7, by decide, fun _ => rfl⟩
  exact read_line (hfront.append hend) rfl (by decide) (by decide +kernel)

end Reader
end Pattern

end FeatureScript
