/-
Budgets put aside and taken back.

A deadline is an instant, so that time goes on for one that is put aside as it does for the one in use.
What is done to the budget in between cannot reach a deadline that lies deeper in the stack than all that
has been put aside since: a sequence of moves works on top of the stack it finds, as long as it takes back
no more than it has put aside. Between two moves that set the deadline, all that changes is the time.

The statements of a script about waiting make such moves, one each.
-/
import PageScript.Proofs.Machine.Course

namespace PageScript

/-- A budget, and the time. -/
structure Timed where
  budget : WaitBudget
  now : Nat
  deriving DecidableEq

/-- What happens to a budget: it is set anew, put aside or taken back, or time passes. -/
inductive BudgetMove
  | arm (duration : Nat)
  | push
  | pop
  | pass (duration : Nat)
  deriving DecidableEq

namespace BudgetMove

/-- Whether a move leaves the deadline where it is. -/
def isCalm : BudgetMove → Bool
  | .push | .pass _ => true
  | .arm _ | .pop => false

/-- Moves between putting the budget aside and taking it back, with what they have put aside and not taken
back themselves taken back behind them. -/
def bracket (moves : List BudgetMove) : List BudgetMove :=
  .push :: (moves ++ List.replicate (moves.count .push - moves.count .pop) .pop ++ [.pop])

end BudgetMove

namespace Timed

/-- Whether there is a deadline to take back. -/
def canPop (t : Timed) : Bool :=
  t.budget.pop?.isSome

/-- What remains of the budget. -/
def remaining (t : Timed) : Nat :=
  t.budget.remaining t.now

/-- One move. Where there is no deadline to take back, nothing is done. -/
def step (t : Timed) : BudgetMove → Timed
  | .arm duration => { t with budget := t.budget.arm t.now duration }
  | .push => { t with budget := t.budget.push }
  | .pop => { t with budget := t.budget.pop?.getD t.budget }
  | .pass duration => { t with now := t.now + duration }

/-- Moves one after the other. -/
def run (t : Timed) (moves : List BudgetMove) : Timed :=
  moves.foldl step t

/-- What the attempts to take a deadline back come to. -/
def pops : Timed → List BudgetMove → List Bool
  | _, [] => []
  | t, .pop :: rest => t.canPop :: (t.step .pop).pops rest
  | t, move :: rest => (t.step move).pops rest

theorem step_pop {t : Timed} {b : WaitBudget} (h : t.budget.pop? = some b) :
    t.canPop = true ∧ (t.step .pop).budget = b := by
  simp [canPop, step, h]

theorem run_append (t : Timed) (front back : List BudgetMove) :
    t.run (front ++ back) = (t.run front).run back :=
  List.foldl_append

theorem pops_append (t : Timed) (front back : List BudgetMove) :
    t.pops (front ++ back) = t.pops front ++ (t.run front).pops back := by
  induction front generalizing t with
  | nil => rfl
  | cons move rest ih =>
    cases move with
    | pop => exact congrArg (t.canPop :: ·) (ih _)
    | _ => exact ih _

-- ======== the stack

/-- Where deadlines lie on top of others, moves that take back no more than these and what they put aside
themselves leave the others alone, and always find a deadline to take back. -/
theorem run_above {t : Timed} {top below : List Nat} {moves : List BudgetMove}
    (hsaved : t.budget.saved = top ++ below)
    (hpops : ∀ front, front <+: moves → front.count .pop ≤ top.length + front.count .push) :
    (∃ top', (t.run moves).budget.saved = top' ++ below ∧
      top'.length + moves.count .pop = top.length + moves.count .push) ∧
    ∀ found ∈ t.pops moves, found = true := by
  induction moves generalizing t top with
  | nil => exact ⟨⟨top, hsaved, rfl⟩, fun found h => absurd h List.not_mem_nil⟩
  | cons move rest ih =>
    have hrest {front : List BudgetMove} (h : front <+: rest) := hpops _ (List.cons_prefix_cons.2 ⟨rfl, h⟩)
    cases move with
    | arm duration => exact ih (t := t.step (.arm duration)) hsaved fun front h => by simpa using hrest h
    | pass duration => exact ih (t := t.step (.pass duration)) hsaved fun front h => by simpa using hrest h
    | push =>
      have hpushed : (t.step .push).budget.saved = (t.budget.deadline :: top) ++ below :=
        congrArg (t.budget.deadline :: ·) hsaved
      obtain ⟨⟨top', hrun, hlength⟩, hfound⟩ := ih hpushed fun front h => by
        have := hrest h
        simp at this ⊢
        omega
      exact ⟨⟨top', hrun, by simp at hlength ⊢; omega⟩, hfound⟩
    | pop =>
      cases top with
      | nil => simpa using hpops [.pop] (List.cons_prefix_cons.2 ⟨rfl, List.nil_prefix⟩)
      | cons deadline top =>
        have hpop : t.budget.pop? = some ⟨deadline, top ++ below⟩ := by
          rw [WaitBudget.pop?, hsaved]
          rfl
        have hpopped : (t.step .pop).budget.saved = top ++ below := by rw [(step_pop hpop).2]
        obtain ⟨⟨top', hrun, hlength⟩, hfound⟩ := ih hpopped fun front h => by
          have := hrest h
          simp at this
          omega
        refine ⟨⟨top', hrun, by simp; omega⟩, ?_⟩
        rw [pops, List.forall_mem_cons]
        exact ⟨(step_pop hpop).1, hfound⟩

/-- Taking back all that lies on top of some deadlines brings these to light. -/
theorem pop_all {t : Timed} {top below : List Nat} (hsaved : t.budget.saved = top ++ below) :
    (t.run (List.replicate top.length .pop)).budget.saved = below ∧
      ∀ found ∈ t.pops (List.replicate top.length .pop), found = true := by
  have hpops : ∀ front, front <+: List.replicate top.length BudgetMove.pop →
      front.count .pop ≤ top.length + front.count .push := by
    intro front h
    obtain ⟨hle, hfront⟩ := List.prefix_replicate_iff.1 h
    rw [hfront]
    simpa [List.count_replicate] using hle
  obtain ⟨⟨top', hrun, hlength⟩, hfound⟩ := run_above hsaved hpops
  have hnone : top' = [] := by simpa [List.count_replicate] using hlength
  exact ⟨by rw [hrun, hnone, List.nil_append], hfound⟩

-- ======== the time

/-- Moves that leave the deadline where it is. -/
theorem run_calm {t : Timed} {moves : List BudgetMove} (hcalm : ∀ move ∈ moves, move.isCalm = true) :
    (t.run moves).budget.deadline = t.budget.deadline ∧ t.now ≤ (t.run moves).now := by
  induction moves generalizing t with
  | nil => exact ⟨rfl, Nat.le_refl _⟩
  | cons move rest ih =>
    obtain ⟨hmove, hrest⟩ := List.forall_mem_cons.1 hcalm
    cases move with
    | push => exact ih (t := t.step .push) hrest
    | pass duration =>
      obtain ⟨hdeadline, hnow⟩ := ih (t := t.step (.pass duration)) hrest
      exact ⟨hdeadline, Nat.le_trans (Nat.le_add_right ..) hnow⟩
    | arm | pop => cases hmove

end Timed

-- ======== the statements

/-- What a statement about waiting does to the budget and the time of a machine. -/
def Statement.budgetMove? {σ : Type} (m : Machine σ) : Statement → Option BudgetMove
  | .wait seconds => some (.arm (m.settings.scaledWait seconds))
  | .defaultWait seconds =>
    some (.arm ({ m.settings with defaultWaitSecs := seconds }.scaledWait seconds))
  | .pushWait => some .push
  | .popWait => some .pop
  | .sleep seconds => some (.pass (wakeTime m.clock (Duration.ofSeconds seconds) - m.clock))
  | _ => none

namespace Machine

variable {σ : Type}

/-- The budget of a machine, and its time. -/
def timed (m : Machine σ) : Timed :=
  ⟨m.budget, m.clock⟩

/-- A statement about waiting makes its move. It fails only if there is no deadline to take back. -/
theorem execute_budgetMove [World σ] {run : Source → Run σ Unit} {limit : Nat} {m : Machine σ}
    {st : Statement} {move : BudgetMove} (h : st.budgetMove? m = some move) :
    ∃ r m', execute run limit st m = (r, m') ∧ m'.timed = m.timed.step move ∧
      (r = .ok () ↔ (move = .pop → m.timed.canPop = true)) := by
  cases st with
  | wait seconds | defaultWait seconds | pushWait =>
    cases h
    exact ⟨.ok (), _, rfl, rfl, fun _ hpop => (by cases hpop), fun _ => rfl⟩
  | sleep seconds =>
    cases h
    refine ⟨.ok (), _, rfl, ?_, fun _ hpop => (by cases hpop), fun _ => rfl⟩
    have hlater : m.clock ≤ wakeTime m.clock (Duration.ofSeconds seconds) :=
      Nat.le_trans (Nat.le_add_right ..) (le_firstMilli _)
    exact congrArg (Timed.mk m.budget) (Nat.add_sub_cancel' hlater).symm
  | popWait =>
    cases h
    rw [execute, Run.get_bind_apply]
    cases hpop : m.budget.pop? with
    | none =>
      refine ⟨_, m, rfl, by simp [timed, Timed.step, hpop], fun hok => (by cases hok), ?_⟩
      simp [timed, Timed.canPop, hpop]
    | some budget =>
      refine ⟨.ok (), _, rfl, ?_, fun _ _ => (Timed.step_pop hpop).1, fun _ => rfl⟩
      exact congrArg (Timed.mk · m.clock) (Timed.step_pop (t := m.timed) hpop).2.symm
  | _ => cases h

end Machine

/-- Budgets nest. Moves that never take back more than they have put aside, with all that they have put
aside taken back behind them, stand between putting a budget aside and taking it back as if they had not
been made: the deadline and the stack are what they were, and each attempt to take a deadline back has
found one. Where none has been put aside, there is none to take back, and nothing changes. And while the
deadline is not set, what remains is the time up to it, which never gets more and stays nothing. The
statements about waiting make such moves, and fail exactly where there is no deadline to take back. -/
theorem budgets_nest (t : Timed) :
    (∀ moves : List BudgetMove,
      (∀ front, front <+: moves → front.count .pop ≤ front.count .push) →
        (t.run (BudgetMove.bracket moves)).budget = t.budget ∧
        ∀ found ∈ t.pops (BudgetMove.bracket moves), found = true) ∧
    (t.budget.saved = [] → t.canPop = false ∧ t.step .pop = t) ∧
    (∀ moves : List BudgetMove, (∀ move ∈ moves, move.isCalm = true) →
      ((t.run moves).remaining : Int) = max 0 (t.budget.deadline - (t.run moves).now) ∧
      (t.run moves).remaining ≤ t.remaining ∧ (t.remaining = 0 → (t.run moves).remaining = 0)) ∧
    ∀ {σ : Type} [World σ] (run : Source → Run σ Unit) (limit : Nat) (m : Machine σ) (st : Statement)
      (move : BudgetMove), m.timed = t → st.budgetMove? m = some move →
        ∃ r m', Machine.execute run limit st m = (r, m') ∧ m'.timed = t.step move ∧
          (r = .ok () ↔ (move = .pop → t.canPop = true)) := by
  refine ⟨fun moves hpops => ?_, fun hempty => ?_, fun moves hcalm => ?_, ?_⟩
  · -- what lies below all the moves is the stack with the deadline put aside
    have hpushed : (t.step .push).budget.saved = [] ++ (t.budget.deadline :: t.budget.saved) := rfl
    obtain ⟨⟨top, hmoved, hlength⟩, hfound⟩ := Timed.run_above hpushed fun front h => by
      simpa using hpops front h
    have hunmatched : moves.count .push - moves.count .pop = top.length := by
      simp at hlength
      omega
    obtain ⟨hsaved, hfound'⟩ := Timed.pop_all hmoved
    have hlast : (((t.step .push).run moves).run (List.replicate top.length .pop)).budget.pop? =
        some t.budget := by
      rw [WaitBudget.pop?, hsaved]
    rw [BudgetMove.bracket, hunmatched]
    change ((t.step .push).run _).budget = _ ∧ ∀ found ∈ (t.step .push).pops _, found = true
    rw [Timed.run_append, Timed.run_append, Timed.pops_append, Timed.pops_append, Timed.run_append,
      List.forall_mem_append, List.forall_mem_append]
    refine ⟨(Timed.step_pop hlast).2, ⟨hfound, hfound'⟩, fun found h => ?_⟩
    rw [List.mem_singleton.1 h]
    exact (Timed.step_pop hlast).1
  · have hpop : t.budget.pop? = none := by rw [WaitBudget.pop?, hempty]
    simp [Timed.canPop, Timed.step, hpop]
  · obtain ⟨hdeadline, hnow⟩ := Timed.run_calm (t := t) hcalm
    simp only [Timed.remaining, WaitBudget.remaining, hdeadline]
    omega
  · rintro σ _ run limit m st move rfl hmove
    exact Machine.execute_budgetMove hmove

/-- Moves that set the budget twice, and let one run out that they have put aside. -/
def hurry : List BudgetMove :=
  [.arm 3, .push, .pass 20, .arm 5, .push, .pop, .push, .pass 1]

theorem hurry_pops (front : List BudgetMove) (h : front <+: hurry) :
    front.count .pop ≤ front.count .push := by
  have htakes : ∀ n ≤ 8, (hurry.take n).count .pop ≤ (hurry.take n).count .push := by decide
  rw [List.prefix_iff_eq_take.1 h]
  exact htakes _ h.length_le

/-- Behind these moves the deadline is the one from before, which has come nearer meanwhile. -/
theorem budgets_nest_hurry :
    (Timed.run ⟨⟨50, [7]⟩, 10⟩ (BudgetMove.bracket hurry)).budget = ⟨50, [7]⟩ ∧
    (Timed.run ⟨⟨50, [7]⟩, 10⟩ (BudgetMove.bracket hurry)).remaining = 19 ∧
    (∀ found ∈ Timed.pops ⟨⟨50, [7]⟩, 10⟩ (BudgetMove.bracket hurry), found = true) ∧
    (Timed.run ⟨⟨50, [7]⟩, 10⟩ [.push, .pass 45]).remaining = 0 ∧
    ∃ r m', Machine.execute (fun _ => pure ()) 0 .popWait (Offline.machine 50) = (r, m') ∧
      m'.timed = ⟨⟨50, []⟩, 0⟩ ∧ r ≠ .ok () := by
  obtain ⟨hnest, -, htime, -⟩ := budgets_nest ⟨⟨50, [7]⟩, 10⟩
  obtain ⟨hbudget, hfound⟩ := hnest hurry hurry_pops
  obtain ⟨hremaining, -, -⟩ := htime [.push, .pass 45] (by decide)
  obtain ⟨r, m', hpop, htimed, hr⟩ := (budgets_nest ⟨⟨50, []⟩, 0⟩).2.2.2 (fun _ => pure ()) 0
    (Offline.machine 50) .popWait .pop rfl rfl
  refine ⟨hbudget, by decide, hfound, Int.ofNat_inj.1 hremaining, r, m', hpop, htimed, fun h => ?_⟩
  exact absurd (hr.1 h rfl) (by decide)

end PageScript
