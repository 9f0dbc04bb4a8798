import FeatureScript.Script.Interpreter

/-!
# FeatureScript.Proofs.Script.Plan

What a script asks for, whatever executor serves it.

An `Act` is one thing asked for. `Interpreter.acts` are the acts of a line and `Interpreter.next` is
the interpreter it leaves if nothing goes wrong; `Interpreter.plan` are the acts of the rest of a
script, its end included.
-/

namespace FeatureScript

/-- What a script asks of an executor. A step that continues nothing has no keyword. -/
inductive Act where
  | setUp
  | tearDown
  | execute (keyword : Option Keyword) (text : String)
  deriving DecidableEq, Repr

namespace Token

def isHeading : Token → Bool
  | .feature _ | .scenario _ => true
  | .step _ _ | .text => false

def isScenario : Token → Bool
  | .scenario _ => true
  | .feature _ | .step _ _ | .text => false

end Token

namespace Lifecycle

/-- The open scenario is closed. -/
def left (l : Lifecycle) : Lifecycle :=
  match l.session with
  | none => l
  | some _ => { l with session := none, closed := l.closed + 1 }

/-- A scenario is opened after the one before. -/
def entered (l : Lifecycle) : Lifecycle :=
  { l.left with session := some .fresh, opened := l.left.opened + 1 }

def closing (l : Lifecycle) : List Act := if l.isOpen then [.tearDown] else []

@[simp] theorem left_isOpen (l : Lifecycle) : l.left.isOpen = false := by
  unfold left isOpen
  cases h : l.session <;> simp [h]

@[simp] theorem left_session (l : Lifecycle) : l.left.session = none := by
  unfold left
  cases h : l.session <;> simp [h]

@[simp] theorem left_opened (l : Lifecycle) : l.left.opened = l.opened := by
  unfold left
  cases l.session <;> rfl

@[simp] theorem left_left (l : Lifecycle) : l.left.left = l.left := by
  unfold left
  cases h : l.session <;> simp [h]

@[simp] theorem entered_opened (l : Lifecycle) : l.entered.opened = l.opened + 1 := by
  simp [entered]

@[simp] theorem entered_session (l : Lifecycle) : l.entered.session = some .fresh := rfl

@[simp] theorem entered_isOpen (l : Lifecycle) : l.entered.isOpen = true := rfl

@[simp] theorem entered_left_closed (l : Lifecycle) :
    l.entered.left.closed = l.left.closed + 1 := rfl

theorem count_setUp_closing (l : Lifecycle) : l.closing.count .setUp = 0 := by
  unfold closing
  cases l.isOpen <;> rfl

end Lifecycle

namespace Interpreter

/-- The session in which the next step is resolved. -/
def session (i : Interpreter) : Session := i.lifecycle.session.getD i.unscoped

theorem resolve_fst (i : Interpreter) (k : Keyword) :
    (i.resolve k).1 = (i.session.resolve k).1 := by
  unfold resolve session Lifecycle.resolve?
  cases i.lifecycle.session <;> rfl

theorem resolve_isOpen (i : Interpreter) (k : Keyword) :
    (i.resolve k).2.lifecycle.isOpen = i.lifecycle.isOpen := by
  unfold resolve Lifecycle.resolve? Lifecycle.isOpen
  cases h : i.lifecycle.session <;> simp [h]

theorem resolve_opened (i : Interpreter) (k : Keyword) :
    (i.resolve k).2.lifecycle.opened = i.lifecycle.opened := by
  unfold resolve Lifecycle.resolve?
  cases i.lifecycle.session <;> rfl

theorem resolve_left (i : Interpreter) (k : Keyword) :
    (i.resolve k).2.lifecycle.left = i.lifecycle.left := by
  unfold resolve Lifecycle.resolve? Lifecycle.left
  cases h : i.lifecycle.session <;> simp [h]

theorem resolve_session (i : Interpreter) (k : Keyword) :
    (i.resolve k).2.session = (i.session.resolve k).2 := by
  unfold resolve session Lifecycle.resolve?
  cases h : i.lifecycle.session <;> simp [h]

/-- The interpreter after a line that stops nothing. -/
def next (i : Interpreter) : Token → Interpreter
  | .feature _ => { lifecycle := i.lifecycle.left, unscoped := .fresh }
  | .scenario _ => { lifecycle := i.lifecycle.entered, unscoped := .fresh }
  | .step k _ => (i.resolve k).2
  | .text => i

/-- What a line asks for. -/
def acts (i : Interpreter) : Token → List Act
  | .feature _ => i.lifecycle.closing
  | .scenario _ => i.lifecycle.closing ++ [.setUp]
  | .step k text => [.execute (i.session.resolve k).1 text]
  | .text => []

/-- The interpreter after lines that stop nothing. -/
def after (i : Interpreter) (tokens : List Token) : Interpreter := tokens.foldl next i

/-- What lines ask for. -/
def allActs (i : Interpreter) : List Token → List Act
  | [] => []
  | t :: rest => i.acts t ++ (i.next t).allActs rest

/-- What a script asks for, its end included. -/
def plan (i : Interpreter) (tokens : List Token) : List Act :=
  i.allActs tokens ++ (i.after tokens).lifecycle.closing

theorem plan_cons (i : Interpreter) (t : Token) (rest : List Token) :
    i.plan (t :: rest) = i.acts t ++ (i.next t).plan rest := by
  simp only [plan, allActs, after, List.foldl_cons, List.append_assoc]

theorem allActs_append (i : Interpreter) (xs ys : List Token) :
    i.allActs (xs ++ ys) = i.allActs xs ++ (i.after xs).allActs ys := by
  induction xs generalizing i with
  | nil => rfl
  | cons t rest ih => simp only [List.cons_append, allActs, ih, List.append_assoc]; rfl

theorem plan_append (i : Interpreter) (xs ys : List Token) :
    i.plan (xs ++ ys) = i.allActs xs ++ (i.after xs).plan ys := by
  simp only [plan, allActs_append, after, List.foldl_append, List.append_assoc]

end Interpreter
end FeatureScript
