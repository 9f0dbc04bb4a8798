import FeatureScript.Proofs.Script.Run
import Mathlib.Data.List.SplitBy

/-!
# FeatureScript.Proofs.Script.Bracket

The hooks of a run bracket its scenarios.

A script is cut before each heading into `blocks`. A block of a scenario asks for set-up, its steps
and tear-down; any other block asks for its steps alone. `plan_eq_blocks`: what a fresh interpreter
asks for over a whole script is what the blocks ask for, one after the other.
`hooks_bracket_scenarios`: the calls of a run that ends well are exactly these, and the calls of a
run that is stopped are a prefix of them.
-/

namespace FeatureScript

variable {σ ρ : Type}

/-- The blocks of a script: the lines before its first heading, if any, and each heading with the
lines up to the next one. -/
def blocks (tokens : List Token) : List (List Token) := tokens.splitBy fun _ t => !t.isHeading

/-- One execution for each step, in order. A conjunction takes the primary keyword before it, which
is `last` at the start. -/
def executions (last : Option Keyword) : List Token → List Act
  | [] => []
  | .step k text :: rest =>
    let resolved := if k.isConjunction then last else some k
    .execute resolved text :: executions resolved rest
  | .feature _ :: rest | .scenario _ :: rest | .text :: rest => executions last rest

/-- What a block asks for. -/
def blockActs : List Token → List Act
  | .scenario _ :: body => .setUp :: executions none body ++ [.tearDown]
  | body => executions none body

/-! ## Headings cut a plan -/

namespace Interpreter

theorem allActs_of_no_heading (i : Interpreter) {body : List Token}
    (h : ∀ t ∈ body, t.isHeading = false) :
    i.allActs body = executions i.session.last body ∧
      (i.after body).lifecycle.isOpen = i.lifecycle.isOpen := by
  induction body generalizing i with
  | nil => exact ⟨rfl, rfl⟩
  | cons t rest ih =>
    obtain ⟨ht, hrest⟩ := List.forall_mem_cons.mp h
    obtain ⟨hacts, hopen⟩ := ih (i.next t) hrest
    cases t with
    | feature label => cases ht
    | scenario label => cases ht
    | step k text =>
      have hsession : ((i.next (.step k text)).session).last =
          if k.isConjunction then i.session.last else some k := by
        rw [next, resolve_session, Session.resolve]
        split <;> rfl
      refine ⟨?_, hopen.trans (resolve_isOpen i k)⟩
      rw [hsession] at hacts
      simp only [allActs, acts, executions, hacts, Session.resolve]
      split <;> rfl
    | text => exact ⟨hacts, hopen⟩

end Interpreter

/-- A heading with lines below it that are none. -/
def IsBlock (block : List Token) : Prop :=
  ∃ heading body, block = heading :: body ∧ heading.isHeading = true ∧
    ∀ t ∈ body, t.isHeading = false

namespace Interpreter

theorem allActs_of_block (i : Interpreter) {block : List Token} (h : IsBlock block) :
    i.allActs block ++ (i.after block).lifecycle.closing =
      i.lifecycle.closing ++ blockActs block := by
  obtain ⟨heading, body, rfl, hheading, hbody⟩ := h
  obtain ⟨hacts, hopen⟩ := (i.next heading).allActs_of_no_heading hbody
  have hclosing : (i.after (heading :: body)).lifecycle.closing =
      (i.next heading).lifecycle.closing := by
    unfold Lifecycle.closing
    rw [← hopen]; rfl
  rw [hclosing, allActs, hacts]
  cases heading with
  | feature label =>
    simp [acts, next, session, blockActs, executions, Lifecycle.closing, Session.fresh]
  | scenario label =>
    simp [acts, next, session, blockActs, Lifecycle.closing, Session.fresh]
  | step k text => cases hheading
  | text => cases hheading

theorem plan_of_blocks (i : Interpreter) {bs : List (List Token)} (h : ∀ b ∈ bs, IsBlock b) :
    i.plan bs.flatten = i.lifecycle.closing ++ bs.flatMap blockActs := by
  induction bs generalizing i with
  | nil => simp [plan, allActs, after]
  | cons b rest ih =>
    obtain ⟨hb, hrest⟩ := List.forall_mem_cons.mp h
    rw [List.flatten_cons, plan_append, ih (i.after b) hrest, ← List.append_assoc,
      allActs_of_block i hb, List.flatMap_cons, List.append_assoc]

end Interpreter

/-! ## The blocks of a script -/

/-- A property that every step of a chain brings about holds of all but the first element. -/
theorem forall_of_isChain {α : Type} {p : α → Prop} {a : α} {l : List α}
    (h : (a :: l).IsChain fun _ b => p b) : ∀ b ∈ l, p b :=
  haveI : Trans (fun _ b : α => p b) (fun _ b => p b) (fun _ b => p b) := ⟨fun _ hb => hb⟩
  fun _ hb => h.rel_cons hb

theorem mem_blocks_tail {tokens : List Token} {t : Token} {body : List Token}
    (h : t :: body ∈ blocks tokens) : ∀ u ∈ body, u.isHeading = false := by
  have hchain := List.isChain_of_mem_splitBy h
  simp only [Bool.not_eq_true'] at hchain
  exact forall_of_isChain hchain

theorem isBlock_of_blocks {tokens : List Token} {first : List Token} {rest : List (List Token)}
    (h : blocks tokens = first :: rest) : ∀ b ∈ rest, IsBlock b := by
  have hchain := List.isChain_getLast_head_splitBy (fun _ t : Token => !t.isHeading) tokens
  rw [← blocks, h] at hchain
  have hheads := forall_of_isChain (hchain.imp
    (S := fun _ b : List Token => ∃ hb, (!(b.head hb).isHeading) = false)
    fun _ _ ⟨_, hb, hhead⟩ => ⟨hb, hhead⟩)
  intro b hb
  obtain ⟨hne, hhead⟩ := hheads b hb
  cases b with
  | nil => cases hne rfl
  | cons t body =>
    have hmem : t :: body ∈ blocks tokens := by rw [h]; exact List.mem_cons_of_mem _ hb
    exact ⟨t, body, rfl, by simpa using hhead, mem_blocks_tail hmem⟩

theorem blockActs_of_no_heading {block : List Token} (h : ∀ t ∈ block, t.isHeading = false) :
    blockActs block = executions none block := by
  cases block with
  | nil => rfl
  | cons t body =>
    cases t with
    | scenario label => cases h (.scenario label) List.mem_cons_self
    | feature label => rfl
    | step k text => rfl
    | text => rfl

theorem plan_eq_blocks (tokens : List Token) :
    Interpreter.fresh.plan tokens = (blocks tokens).flatMap blockActs := by
  have hflatten : (blocks tokens).flatten = tokens := List.flatten_splitBy _ _
  cases hblocks : blocks tokens with
  | nil => rw [← hflatten, hblocks]; rfl
  | cons first rest =>
    have hrest := isBlock_of_blocks hblocks
    -- the first block may stand before any heading, or begin with one like the others
    have hfirst : IsBlock first ∨ ∀ t ∈ first, t.isHeading = false := by
      cases first with
      | nil => exact .inr (by simp)
      | cons t body =>
        have hbody := mem_blocks_tail (hblocks ▸ List.mem_cons_self : t :: body ∈ blocks tokens)
        cases ht : t.isHeading with
        | true => exact .inl ⟨t, body, rfl, ht, hbody⟩
        | false => exact .inr (List.forall_mem_cons.mpr ⟨ht, hbody⟩)
    rw [← hflatten, hblocks]
    rcases hfirst with hfirst | hfirst
    · exact Interpreter.fresh.plan_of_blocks (List.forall_mem_cons.mpr ⟨hfirst, hrest⟩)
    · obtain ⟨hacts, hopen⟩ := Interpreter.fresh.allActs_of_no_heading hfirst
      have hclosing : (Interpreter.fresh.after first).lifecycle.closing = [] := by
        rw [Lifecycle.closing, hopen]; rfl
      rw [List.flatten_cons, Interpreter.plan_append, hacts,
        Interpreter.plan_of_blocks _ hrest, hclosing, List.flatMap_cons,
        blockActs_of_no_heading hfirst]
      rfl

/-! ## Counting -/

namespace Interpreter

theorem count_setUp_plan (i : Interpreter) (tokens : List Token) :
    (i.plan tokens).count .setUp = tokens.countP Token.isScenario := by
  induction tokens generalizing i with
  | nil => exact i.lifecycle.count_setUp_closing
  | cons t rest ih =>
    rw [plan_cons, List.count_append, ih, List.countP_cons]
    cases t <;> simp [acts, Token.isScenario, Lifecycle.count_setUp_closing, Nat.add_comm]

theorem count_tearDown_plan (i : Interpreter) (tokens : List Token) :
    (i.plan tokens).count .tearDown =
      i.lifecycle.closing.count .tearDown + tokens.countP Token.isScenario := by
  induction tokens generalizing i with
  | nil => simp [plan, allActs, after]
  | cons t rest ih =>
    rw [plan_cons, List.count_append, ih, List.countP_cons]
    cases t with
    | feature label => simp [acts, next, Token.isScenario, Lifecycle.closing]
    | scenario label =>
      simp [acts, next, Token.isScenario, Lifecycle.closing]; omega
    | step k text => simp [acts, next, Token.isScenario, Lifecycle.closing, resolve_isOpen]
    | text => simp [acts, next, Token.isScenario]

theorem after_counts (i : Interpreter) (tokens : List Token) :
    (i.after tokens).lifecycle.opened = i.lifecycle.opened + tokens.countP Token.isScenario ∧
      (i.after tokens).lifecycle.left.closed =
        i.lifecycle.left.closed + tokens.countP Token.isScenario := by
  induction tokens generalizing i with
  | nil => exact ⟨rfl, rfl⟩
  | cons t rest ih =>
    obtain ⟨hopened, hclosed⟩ := ih (i.next t)
    have ht : (i.next t).lifecycle.opened =
          i.lifecycle.opened + (if t.isScenario then 1 else 0) ∧
        (i.next t).lifecycle.left.closed =
          i.lifecycle.left.closed + (if t.isScenario then 1 else 0) := by
      cases t with
      | feature label => simp [next, Token.isScenario]
      | scenario label => simp [next, Token.isScenario]
      | step k text => simp [next, Token.isScenario, resolve_opened, resolve_left]
      | text => simp [next, Token.isScenario]
    rw [List.countP_cons]
    exact ⟨by rw [after, List.foldl_cons, ← after, hopened, ht.1]; omega,
      by rw [after, List.foldl_cons, ← after, hclosed, ht.2]; omega⟩

end Interpreter

/-! ## Whole runs -/

/-- The hooks bracket the scenarios: a run that ends well makes the calls its blocks ask for, and
no others; a run that is stopped makes the first of them, up to the hook that fails or to the step
that continues nothing. -/
theorem hooks_bracket_scenarios (E : Executor σ) (R : Reporter ρ) (x : σ) (r : ρ)
    (text source : String) :
    let tokens := (scriptLines text source).map Line.token
    let run := interpret E.logged R { state := x } r text source
    let calls := run.2.executor.calls
    let lifecycle := run.2.interpreter.lifecycle
    let expected := (blocks tokens).flatMap blockActs
    let scenarios := tokens.countP Token.isScenario
    interpret E R x r text source = (run.1, run.2.map Logged.state id) ∧
    match run.1 with
    | .ok () => calls.map Call.act = expected ∧
        (calls.map Call.act).count .setUp = scenarios ∧
        (calls.map Call.act).count .tearDown = scenarios ∧
        lifecycle.opened = scenarios ∧ lifecycle.closed = scenarios ∧ lifecycle.isOpen = false
    | .error (.lifecycle _ _ cause) => calls.map Call.act <+: expected ∧
        ∃ before last, calls = before ++ [last] ∧ last.error? = some cause ∧
          ∀ c ∈ before, c.error? = none
    | .error (.danglingConjunction k line) => (∀ c ∈ calls, c.error? = none) ∧
        ∃ text rest, line.token = .step k text ∧
          expected = calls.map Call.act ++ .execute none text :: rest := by
  intro tokens run calls lifecycle expected scenarios
  refine ⟨interpret_logged E R { state := x } r text source, ?_⟩
  obtain ⟨calls', hcalls, hans, hleft⟩ := Stage.interpret_spec (rfl : Stage.interpret E.logged R
    { executor := { state := x }, reporter := r } text source = run)
  have hplan : Interpreter.fresh.plan tokens = expected := plan_eq_blocks tokens
  have haccount : Accounted expected calls run.1 := by
    rw [← hplan, show calls = calls' from hcalls.log]
    exact hans.account
  cases hrun : run.1 with
  | ok u =>
    rw [hrun] at haccount
    have hacts : calls.map Call.act = Interpreter.fresh.plan tokens := haccount.1.trans hplan.symm
    have hl : lifecycle = (Interpreter.fresh.after tokens).lifecycle.left := hleft hrun
    obtain ⟨hopened, hclosed⟩ := Interpreter.fresh.after_counts tokens
    refine ⟨haccount.1, ?_, ?_, ?_, ?_, ?_⟩
    · rw [hacts, Interpreter.count_setUp_plan]
    · rw [hacts, Interpreter.count_tearDown_plan]
      exact Nat.zero_add _
    · rw [hl, Lifecycle.left_opened, hopened]
      exact Nat.zero_add _
    · rw [hl, hclosed]
      exact Nat.zero_add _
    · rw [hl, Lifecycle.left_isOpen]
  | error e =>
    rw [hrun] at haccount
    cases e with
    | lifecycle source' number cause =>
      obtain ⟨before, last, rest, hcalls, hlast, hbefore, hacts⟩ := haccount
      exact ⟨⟨rest, hacts.symm⟩, before, last, hcalls, hlast, hbefore⟩
    | danglingConjunction k line => exact haccount

end FeatureScript
