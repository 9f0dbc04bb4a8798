import FeatureScript.Proofs.Script.Calls
import Mathlib.Data.List.Infix

/-!
# FeatureScript.Proofs.Script.Pairing

Scenarios that are opened and closed in any order.

A `Lifecycle.Move` is anything that can be asked of a lifecycle. The hooks of a lifecycle keep in
step: a scenario is torn down exactly if the call before it was a set-up that went well
(`InStep.concat`). `Lifecycle.Counts` is the invariant of all moves: the counters are those of the
log of calls, the log is in step, and a scenario is open exactly if the last call opened it
(`Lifecycle.Counts.make`). `hooks_pair_up`: so set-ups and tear-downs pair up, whatever the hooks
answer.
-/

namespace FeatureScript

variable {σ : Type}

namespace Call

def isSetUp : Call → Bool
  | .setUp _ => true
  | _ => false

/-- A set-up that went well. -/
def opens : Call → Bool
  | .setUp (.ok _) => true
  | _ => false

/-- A tear-down, however it went. -/
def closes : Call → Bool
  | .tearDown _ => true
  | _ => false

end Call

/-! ## Calls in step -/

/-- The last call opened a scenario. -/
def leftOpen (calls : List Call) : Bool := calls.getLast?.any Call.opens

/-- Scenarios are torn down right after they are set up, and before anything else is called. -/
def InStep (calls : List Call) : Prop :=
  ∀ before c, before ++ [c] <+: calls → c.closes = leftOpen before

@[simp] theorem leftOpen_concat (calls : List Call) (c : Call) :
    leftOpen (calls ++ [c]) = c.opens := by
  simp [leftOpen]

theorem InStep.nil : InStep [] := by
  intro before c h
  simp at h

theorem InStep.concat {calls : List Call} {c : Call} (h : InStep calls)
    (hc : c.closes = leftOpen calls) : InStep (calls ++ [c]) := by
  intro before d hd
  rcases List.prefix_concat_iff.mp hd with heq | hd
  · obtain ⟨rfl, hlast⟩ := List.append_inj' heq rfl
    cases hlast
    exact hc
  · exact h before d hd

/-- The tear-down at `j` closes what the set-up at `i` opened: no scenario is opened and none is
torn down between the two. -/
structure Closes (calls : List Call) (i j : Nat) : Prop where
  lt : i < j
  opens : ∃ c, calls[i]? = some c ∧ c.opens = true
  closes : ∃ c, calls[j]? = some c ∧ c.closes = true
  between : ∀ k c, i < k → k < j → calls[k]? = some c → c.opens = false ∧ c.closes = false

namespace Closes

variable {calls : List Call} {i i' j j' : Nat}

theorem left_unique (h : Closes calls i j) (h' : Closes calls i' j) : i = i' := by
  obtain ⟨c, hc, hopens⟩ := h.opens
  obtain ⟨c', hc', hopens'⟩ := h'.opens
  rcases Nat.lt_trichotomy i i' with hlt | heq | hlt
  · rw [(h.between i' c' hlt h'.lt hc').1] at hopens'
    cases hopens'
  · exact heq
  · rw [(h'.between i c hlt h.lt hc).1] at hopens
    cases hopens

theorem right_unique (h : Closes calls i j) (h' : Closes calls i j') : j = j' := by
  obtain ⟨c, hc, hcloses⟩ := h.closes
  obtain ⟨c', hc', hcloses'⟩ := h'.closes
  rcases Nat.lt_trichotomy j j' with hlt | heq | hlt
  · rw [(h'.between j c h.lt hlt hc).2] at hcloses
    cases hcloses
  · exact heq
  · rw [(h.between j' c' h'.lt hlt hc').2] at hcloses'
    cases hcloses'

end Closes

namespace InStep

variable {calls : List Call} {i j : Nat} {c d : Call}

theorem take_isPrefix (hd : calls[j]? = some d) : calls.take j ++ [d] <+: calls := by
  have htake : calls.take (j + 1) = calls.take j ++ [d] := by
    rw [List.take_add_one, hd, Option.toList_some]
  exact ⟨calls.drop (j + 1), by rw [← htake, List.take_append_drop]⟩

theorem closes_at (h : InStep calls) (hd : calls[j]? = some d) :
    d.closes = leftOpen (calls.take j) := h _ _ (take_isPrefix hd)

/-- Right behind the call at `i` a scenario is torn down exactly if that call opened one. -/
theorem closes_next (h : InStep calls) (hc : calls[i]? = some c) (hd : calls[i + 1]? = some d) :
    d.closes = c.opens := by
  rw [h.closes_at hd, List.take_add_one, hc, Option.toList_some, leftOpen_concat]

theorem closes_of_opens (h : InStep calls) (hc : calls[i]? = some c) (hopens : c.opens = true)
    (hd : calls[i + 1]? = some d) : Closes calls i (i + 1) where
  lt := Nat.lt_succ_self i
  opens := ⟨c, hc, hopens⟩
  closes := ⟨d, hd, (h.closes_next hc hd).trans hopens⟩
  between k _ hlow hhigh := by omega

theorem exists_closes (h : InStep calls) (hd : calls[j]? = some d) (hcloses : d.closes = true) :
    ∃ i, Closes calls i j := by
  cases j with
  | zero =>
    rw [h.closes_at hd] at hcloses
    cases hcloses
  | succ i =>
    have hi : i < calls.length := Nat.lt_of_succ_lt (List.getElem?_eq_some_iff.mp hd).1
    have hc : calls[i]? = some calls[i] := List.getElem?_eq_getElem hi
    exact ⟨i, h.closes_of_opens hc ((h.closes_next hc hd).symm.trans hcloses) hd⟩

/-- What was opened is closed before anything is set up again. -/
theorem closes_before (h : InStep calls) (hc : calls[i]? = some c) (hopens : c.opens = true)
    (hd : calls[j]? = some d) (hsetUp : d.isSetUp = true) (hij : i < j) :
    ∃ k < j, Closes calls i k := by
  have hj : j < calls.length := (List.getElem?_eq_some_iff.mp hd).1
  have hnext : calls[i + 1]? = some calls[i + 1] := List.getElem?_eq_getElem (by omega)
  have hcloses := h.closes_of_opens hc hopens hnext
  -- the call right behind `i` is a tear-down, so the set-up at `j` comes later
  refine ⟨i + 1, Nat.lt_of_le_of_ne hij fun heq => ?_, hcloses⟩
  subst heq
  obtain ⟨d', hd', hd'closes⟩ := hcloses.closes
  cases hd.symm.trans hd'
  cases d with
  | tearDown answer => cases hsetUp
  | setUp answer | execute k text result => cases hd'closes

end InStep

/-! ## Moves -/

namespace Lifecycle

/-- What can be asked of a lifecycle. -/
inductive Move where
  | enter
  | leave
  /-- A step is resolved in the open scenario, if there is one. -/
  | resolve (keyword : Keyword)

variable {l l' : Lifecycle} {outcome : Except LifecycleError Unit}

def make (E : Executor σ) (l : Lifecycle) (s : σ) :
    Move → Except LifecycleError Unit × Lifecycle × σ
  | .enter => l.enter E s
  | .leave => l.leave E s
  | .resolve k => (.ok (), ((l.resolve? k).map Prod.snd).getD l, s)

/-- Makes moves one after the other, whether they fail or not. -/
def makeAll (E : Executor σ) (l : Lifecycle) (s : σ) : List Move → Lifecycle × σ
  | [] => (l, s)
  | m :: rest =>
    let (_, l, s) := l.make E s m
    makeAll E l s rest

/-- The lifecycle after a set-up, when nothing is open any more. -/
def settled (l : Lifecycle) : Except HookError Unit → Lifecycle
  | .ok () => l.entered
  | .error _ => l.left

/-- What a move can come to: its outcome, the calls it makes, and the lifecycle it leaves. -/
inductive Performs (l : Lifecycle) :
    Move → Except LifecycleError Unit → List Call → Lifecycle → Prop where
  | idle : l.isOpen = false → Performs l .leave (.ok ()) [] l
  | leave (answer : Except HookError Unit) : l.isOpen = true →
      Performs l .leave (answer.mapError .tearDown) [.tearDown answer] l.left
  | enter (answer : Except HookError Unit) : l.isOpen = false →
      Performs l .enter (answer.mapError .setUp) [.setUp answer] (l.settled answer)
  | reenter (answer : Except HookError Unit) : l.isOpen = true →
      Performs l .enter (answer.mapError .setUp) [.tearDown (.ok ()), .setUp answer]
        (l.settled answer)
  | stuck (cause : HookError) : l.isOpen = true →
      Performs l .enter (.error (.tearDown cause)) [.tearDown (.error cause)] l.left
  | resolve (k : Keyword) :
      Performs l (.resolve k) (.ok ()) []
        { l with session := l.session.map fun session => (session.resolve k).2 }

theorem leave_performs {E : Executor σ} {x x' : Logged σ}
    (h : l.leave E.logged x = (outcome, l', x')) :
    ∃ calls, x'.calls = x.calls ++ calls ∧ l.Performs .leave outcome calls l' := by
  unfold Lifecycle.leave at h
  cases hl : l.session with
  | none =>
    rw [hl] at h; cases h
    exact ⟨[], by simp, .idle (by rw [isOpen, hl]; rfl)⟩
  | some session =>
    have hopen : l.isOpen = true := by rw [isOpen, hl]; rfl
    have hleft : { l with session := none, closed := l.closed + 1 } = l.left := by
      rw [left, hl]
    cases hdown : E.tearDown x.state with
    | mk answer y =>
      simp only [hl, Executor.logged, hdown, hleft] at h
      cases answer with
      | ok u => cases h; exact ⟨_, rfl, .leave (.ok ()) hopen⟩
      | error cause => cases h; exact ⟨_, rfl, .leave (.error cause) hopen⟩

namespace Performs

variable {m : Move} {calls : List Call}

/-- A move that fails leaves no scenario open. -/
theorem closed_of_error {e : LifecycleError} (h : l.Performs m (.error e) calls l') :
    l'.isOpen = false := by
  generalize ho : (Except.error e : Except LifecycleError Unit) = failed at h
  cases h with
  | idle _ => cases ho
  | leave answer _ => exact left_isOpen l
  | enter answer _ | reenter answer _ =>
    cases answer with
    | ok u => cases ho
    | error cause => exact left_isOpen l
  | stuck cause _ => exact left_isOpen l
  | resolve k => cases ho

/-- When tear-down fails, the move fails with it, and nothing is set up. -/
theorem of_tearDown_failed {cause : HookError} (h : l.Performs m outcome calls l')
    (hc : .tearDown (.error cause) ∈ calls) :
    outcome = .error (.tearDown cause) ∧ ∀ c ∈ calls, c.isSetUp = false := by
  cases h with
  | idle _ | resolve k => cases hc
  | leave answer _ =>
    cases List.mem_singleton.mp hc
    exact ⟨rfl, fun c hc => by rw [List.mem_singleton.mp hc]; rfl⟩
  | enter answer _ => cases List.mem_singleton.mp hc
  | reenter answer _ => simp at hc
  | stuck cause' _ =>
    cases List.mem_singleton.mp hc
    exact ⟨rfl, fun c hc => by rw [List.mem_singleton.mp hc]; rfl⟩

/-- A scenario that is opened remembers nothing of the one before. -/
theorem session_of_enter (h : l.Performs .enter (.ok ()) calls l') :
    l'.session = some .fresh := by
  generalize ho : (Except.ok () : Except LifecycleError Unit) = done at h
  cases h with
  | enter answer _ | reenter answer _ =>
    cases answer with
    | ok u => rfl
    | error cause => cases ho
  | stuck cause _ => cases ho

end Performs

theorem left_of_not_open (h : l.isOpen = false) : l.left = l := by
  unfold left
  cases hl : l.session with
  | none => rfl
  | some session => rw [isOpen, hl] at h; cases h

/-- Where nothing is in the way any more, a scenario is opened as its set-up answers. -/
theorem enter_settles {E : Executor σ} {x x₁ : Logged σ}
    (h : l.leave E.logged x = (.ok (), l.left, x₁)) :
    ∃ answer y, l.enter E.logged x =
      (answer.mapError .setUp, l.settled answer, x₁.add y (.setUp answer)) := by
  refine ⟨(E.setUp x₁.state).1, (E.setUp x₁.state).2, ?_⟩
  unfold Lifecycle.enter
  rw [h]
  cases hup : E.setUp x₁.state with
  | mk answer y =>
    simp only [Executor.logged, hup]
    cases answer <;> rfl

theorem enter_performs {E : Executor σ} {x x' : Logged σ}
    (h : l.enter E.logged x = (outcome, l', x')) :
    ∃ calls, x'.calls = x.calls ++ calls ∧ l.Performs .enter outcome calls l' := by
  cases hleave : l.leave E.logged x with
  | mk left rest =>
    obtain ⟨l₁, x₁⟩ := rest
    obtain ⟨calls, hcalls, hperforms⟩ := leave_performs hleave
    cases hperforms with
    | idle hclosed =>
      have hleft : l.leave E.logged x = (.ok (), l.left, x₁) := by
        rw [left_of_not_open hclosed, hleave]
      obtain ⟨answer, y, henter⟩ := enter_settles hleft
      cases henter.symm.trans h
      exact ⟨_, by rw [Logged.add, hcalls, List.append_nil], .enter answer hclosed⟩
    | leave answer hopen =>
      cases answer with
      | error cause =>
        simp only [Lifecycle.enter, hleave, Except.mapError] at h
        cases h
        exact ⟨_, hcalls, .stuck cause hopen⟩
      | ok u =>
        obtain ⟨answer, y, henter⟩ := enter_settles hleave
        cases henter.symm.trans h
        exact ⟨_, by rw [Logged.add, hcalls, List.append_assoc]; rfl, .reenter answer hopen⟩

theorem make_performs {E : Executor σ} {x x' : Logged σ} {m : Move}
    (h : l.make E.logged x m = (outcome, l', x')) :
    ∃ calls, x'.calls = x.calls ++ calls ∧ l.Performs m outcome calls l' := by
  cases m with
  | enter => exact enter_performs h
  | leave => exact leave_performs h
  | resolve k =>
    cases h
    refine ⟨[], by simp, ?_⟩
    have hresolve : ((l.resolve? k).map Prod.snd).getD l =
        { l with session := l.session.map fun session => (session.resolve k).2 } := by
      unfold resolve?
      cases hl : l.session with
      | none => exact congrArg (fun session => { l with session }) hl
      | some session => rfl
    rw [hresolve]
    exact .resolve k

/-! ## The counters and the log -/

/-- The counters are those of the log of calls, the log is in step, and a scenario is open exactly
if the last call opened one. -/
structure Counts (l : Lifecycle) (calls : List Call) : Prop where
  opened : l.opened = calls.countP Call.opens
  closed : l.closed = calls.countP Call.closes
  balance : l.opened = l.closed + if l.isOpen then 1 else 0
  isOpen : l.isOpen = leftOpen calls
  inStep : InStep calls

namespace Counts

variable {calls : List Call}

theorem empty : Counts {} [] := ⟨rfl, rfl, rfl, rfl, .nil⟩

theorem tearDown (h : l.Counts calls) (hopen : l.isOpen = true) (answer : Except HookError Unit) :
    l.left.Counts (calls ++ [.tearDown answer]) := by
  have hclosed : l.left.closed = l.closed + 1 := by
    unfold left
    cases hl : l.session with
    | none => rw [Lifecycle.isOpen, hl] at hopen; cases hopen
    | some session => rfl
  refine ⟨?_, ?_, ?_, ?_, h.inStep.concat (h.isOpen.symm.trans hopen).symm⟩
  · simp [h.opened, Call.opens]
  · simp [hclosed, h.closed, Call.closes]
  · simp [hclosed, h.balance, hopen]
  · simp [Call.opens]

theorem setUp (h : l.Counts calls) (hclosed : l.isOpen = false) (answer : Except HookError Unit) :
    (l.settled answer).Counts (calls ++ [.setUp answer]) := by
  have hstep : InStep (calls ++ [.setUp answer]) :=
    h.inStep.concat (h.isOpen.symm.trans hclosed).symm
  have hbalance := h.balance
  rw [hclosed] at hbalance
  cases answer with
  | error cause =>
    rw [settled, left_of_not_open hclosed]
    exact ⟨by simp [h.opened, Call.opens], by simp [h.closed, Call.closes], h.balance,
      by simp [hclosed, Call.opens], hstep⟩
  | ok u =>
    have hentered : l.entered = { l with session := some .fresh, opened := l.opened + 1 } := by
      rw [entered, left_of_not_open hclosed]
    rw [settled, hentered]
    exact ⟨by simp [h.opened, Call.opens], by simp [h.closed, Call.closes],
      by simp [Lifecycle.isOpen, hbalance], by simp [Lifecycle.isOpen, Call.opens], hstep⟩

/-- No move breaks the counters, whether it fails or not. -/
theorem performs (h : l.Counts calls) {m : Move} {added : List Call}
    (hm : l.Performs m outcome added l') : l'.Counts (calls ++ added) := by
  cases hm with
  | idle hclosed => rwa [List.append_nil]
  | leave answer hopen => exact h.tearDown hopen answer
  | enter answer hclosed => exact h.setUp hclosed answer
  | reenter answer hopen =>
    have hsettled : l.settled answer = l.left.settled answer := by
      cases answer <;> simp [settled, entered]
    -- the log grows by two calls: one of a scenario that is open, one of none
    have hleft := h.tearDown hopen (.ok ())
    rw [hsettled, ← List.singleton_append, ← List.append_assoc]
    exact hleft.setUp (left_isOpen l) answer
  | stuck cause hopen => exact h.tearDown hopen (.error cause)
  | resolve k =>
    rw [List.append_nil]
    have hopen : Lifecycle.isOpen
        { l with session := l.session.map fun session => (session.resolve k).2 } = l.isOpen := by
      simp [Lifecycle.isOpen]
    exact ⟨h.opened, h.closed, by rw [hopen]; exact h.balance, hopen.trans h.isOpen, h.inStep⟩

theorem makeAll {E : Executor σ} {x : Logged σ} (h : l.Counts x.calls) (moves : List Move) :
    (l.makeAll E.logged x moves).1.Counts (l.makeAll E.logged x moves).2.calls := by
  induction moves generalizing l x with
  | nil => exact h
  | cons m rest ih =>
    cases hm : l.make E.logged x m with
    | mk outcome rest =>
      obtain ⟨l', x'⟩ := rest
      obtain ⟨added, hadded, hperforms⟩ := make_performs hm
      simp only [Lifecycle.makeAll, hm]
      exact ih (hadded ▸ h.performs hperforms)

end Counts

theorem make_map {τ : Type} {E : Executor σ} {F : Executor τ} {f : σ → τ} (hE : E.Projects F f)
    (l : Lifecycle) (x : σ) (m : Move) :
    l.make F (f x) m = ((l.make E x m).1, (l.make E x m).2.1, f (l.make E x m).2.2) := by
  cases m with
  | enter => exact enter_map hE l x
  | leave => exact leave_map hE l x
  | resolve k => rfl

theorem makeAll_map {τ : Type} {E : Executor σ} {F : Executor τ} {f : σ → τ} (hE : E.Projects F f)
    (l : Lifecycle) (x : σ) (moves : List Move) :
    l.makeAll F (f x) moves = ((l.makeAll E x moves).1, f (l.makeAll E x moves).2) := by
  induction moves generalizing l x with
  | nil => rfl
  | cons m rest ih =>
    simp only [makeAll, make_map hE]
    exact ih _ _

end Lifecycle

/-- Whatever is asked of a new lifecycle and whatever its hooks answer, set-ups and tear-downs pair
up. The counters are those of the set-ups that went well and of the tear-downs, and they differ by
the scenario that is open. Each tear-down closes what one set-up before it opened, each set-up that
went well is closed by one tear-down at most, and it is closed before anything is set up again. Of
every further move: if it fails, no scenario is open; if tear-down fails, nothing is set up; and if
a scenario is opened, no keyword is remembered in it. -/
theorem hooks_pair_up (E : Executor σ) (x : σ) (moves : List Lifecycle.Move) :
    let reached := Lifecycle.makeAll E.logged {} { state := x } moves
    let l := reached.1
    let calls := reached.2.calls
    Lifecycle.makeAll E {} x moves = (l, reached.2.state) ∧
    l.opened = l.closed + (if l.isOpen then 1 else 0) ∧
    l.closed = calls.countP Call.closes ∧ l.opened = calls.countP Call.opens ∧
    (∀ j c, calls[j]? = some c → c.closes = true → ∃! i, Closes calls i j) ∧
    (∀ i j j', Closes calls i j → Closes calls i j' → j = j') ∧
    (∀ i j c d, calls[i]? = some c → c.opens = true → calls[j]? = some d → d.isSetUp = true →
      i < j → ∃ k < j, Closes calls i k) ∧
    ∀ m, let made := l.make E.logged reached.2 m
      ∃ added, made.2.2.calls = calls ++ added ∧
        (∀ e, made.1 = .error e → made.2.1.isOpen = false) ∧
        (∀ cause, .tearDown (.error cause) ∈ added →
          made.1 = .error (.tearDown cause) ∧ ∀ c ∈ added, c.isSetUp = false) ∧
        (m = .enter → made.1 = .ok () → made.2.1.session = some .fresh) := by
  intro reached l calls
  have hcounts : l.Counts calls := Lifecycle.Counts.empty.makeAll moves
  refine ⟨Lifecycle.makeAll_map E.logged_projects {} { state := x } moves, hcounts.balance,
    hcounts.closed, hcounts.opened, ?_, fun i j j' => Closes.right_unique, ?_, ?_⟩
  · intro j c hc hcloses
    obtain ⟨i, hi⟩ := hcounts.inStep.exists_closes hc hcloses
    exact ⟨i, hi, fun i' hi' => hi'.left_unique hi⟩
  · intro i j c d hc hopens hd hsetUp hij
    exact hcounts.inStep.closes_before hc hopens hd hsetUp hij
  · intro m made
    obtain ⟨added, hadded, hperforms⟩ :=
      Lifecycle.make_performs (rfl : l.make E.logged reached.2 m = made)
    refine ⟨added, hadded, ?_, fun cause => hperforms.of_tearDown_failed, ?_⟩
    · intro e he
      exact (he ▸ hperforms).closed_of_error
    · rintro rfl hok
      exact (hok ▸ hperforms).session_of_enter

end FeatureScript
