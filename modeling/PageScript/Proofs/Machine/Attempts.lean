/-
How often a check is tried.

A check is a chain of attempts. Each attempt is one call on the browser; between two of them the machine
sleeps once and, if the check is about an element, looks the current one up again. `Tried` describes
such a chain in full, with the reason why there is another attempt and the reason why there is none.

Each sleep uses up one retry interval of the budget, or all that is left of it. It may use up more, since
it ends on a whole millisecond, so that there is at most one attempt more than intervals fit in what
remains. That there are no fewer unless the check is decided holds where the clock shows a whole
millisecond, for then no sleep but the last is rounded. It always does: time starts at zero and passes in
sleeps only.
-/
import Mathlib.Algebra.Order.Floor.Div
import PageScript.Proofs.Machine.History

namespace PageScript

-- ======== intervals

/-- A whole interval less takes one step less. -/
theorem ceilDiv_eq_succ {total interval : Nat} (hinterval : 0 < interval) (htotal : 0 < total) :
    total ⌈/⌉ interval = (total - interval) ⌈/⌉ interval + 1 := by
  rw [Nat.ceilDiv_eq_add_pred_div, Nat.ceilDiv_eq_add_pred_div, ← Nat.add_div_right _ hinterval]
  rcases Nat.le_total interval total with hle | hle
  · congr 1
    omega
  · -- less than an interval is left, and counts as one
    rw [Nat.sub_eq_zero_of_le hle, Nat.div_eq_of_lt_le (k := 1) (by omega) (by omega),
      Nat.div_eq_of_lt_le (k := 1) (by omega) (by omega)]

theorem ceilDiv_mono {a b : Nat} (h : a ≤ b) (interval : Nat) : a ⌈/⌉ interval ≤ b ⌈/⌉ interval :=
  Nat.div_le_div_right (by omega)

/-- What remains of a budget after a pause: an interval less, or even less than that. -/
theorem remaining_wakeTime_le (b : WaitBudget) (now interval : Nat) :
    b.remaining (wakeTime now (min interval (b.remaining now))) ≤ b.remaining now - interval := by
  unfold WaitBudget.remaining wakeTime
  omega

/-- On whole milliseconds it is no less. -/
theorem remaining_wakeTime_eq (b : WaitBudget) {now interval : Nat} (hnow : 10 ^ 6 ∣ now)
    (hinterval : 10 ^ 6 ∣ interval) :
    b.remaining (wakeTime now (min interval (b.remaining now))) = b.remaining now - interval := by
  obtain ⟨a, rfl⟩ := hnow
  obtain ⟨i, rfl⟩ := hinterval
  unfold WaitBudget.remaining wakeTime
  omega

theorem dvd_wakeTime (now duration : Nat) : 10 ^ 6 ∣ wakeTime now duration :=
  Nat.dvd_mul_left ..

theorem Settings.dvd_retryInterval (s : Settings) : 10 ^ 6 ∣ s.retryInterval :=
  Nat.dvd_mul_left ..

theorem Settings.retryInterval_pos {s : Settings} (h : 0 < s.retryIntervalMs) :
    0 < s.retryInterval :=
  Nat.mul_pos h (by decide)

-- ======== attempts

/-- The call with which a probe is tried. -/
def Probe.call : Probe → Call
  | .locate locator => .locate locator
  | .click => .click
  | .text _ => .text
  | .tag _ => .tagName
  | .state which _ => .state which
  | .geometry .. => .rect
  | .checksum _ => .checksum
  | .navigation => .readyState

namespace Machine

variable {σ : Type}

/-- The machine at another time. -/
def atTime (m : Machine σ) (time : Nat) : Machine σ :=
  { m with clock := time }

theorem atTime_clock (m : Machine σ) (time : Nat) : (m.atTime time).clock = time := rfl

theorem atTime_sameScript (m : Machine σ) (time : Nat) : SameScript m (m.atTime time) := ⟨rfl⟩

/-- The machine after the sleep between two attempts: as long as the retry interval, but no longer than
what remains of the budget. -/
def rested (m : Machine σ) : Machine σ :=
  m.atTime (wakeTime m.clock (min m.settings.retryInterval (m.budget.remaining m.clock)))

theorem pause_apply (m : Machine σ) : pause m = (.ok (), m.rested) := rfl

variable [World σ]

/-- The machine that has looked up again what the current element was looked up by, if something was. Only
where the probe itself looks something up, or waits for a document, is that left out. -/
def refound (probe : Probe) (m : Machine σ) : Machine σ :=
  match probe, m.current with
  | .locate _, _ | .navigation, _ | _, none => m
  | _, some locator => m.asking (.locate locator)

theorem relocate_apply (probe : Probe) (m : Machine σ) :
    relocate probe m = (.ok (), m.refound probe) := by
  unfold relocate refound
  cases probe with
  | locate _ | navigation => rfl
  | _ =>
    rw [if_pos (rfl : Probe.needsElement _ = true), Run.get_bind_apply]
    cases m.current with
    | none => rfl
    | some locator => rfl

theorem refound_quiet (probe : Probe) (m : Machine σ) : Quiet m (m.refound probe) := by
  unfold refound
  split
  · exact refl_of Quiet m
  · exact refl_of Quiet m
  · exact refl_of Quiet m
  · exact asking_quiet m _

/-- A call whose answer is then only looked at is all that there is to do with the machine. -/
theorem outcome_of_call {c : Call} {look : c.Reply → Run σ Unit}
    (hlook : ∀ a m, ∃ o, (look a).outcome m = (.ok o, m)) (m : Machine σ) :
    ∃ o, (Run.call c >>= look).outcome m = (.ok o, m.asking c) := by
  rcases call_cases c m with ⟨a, hcall, -⟩ | ⟨e, hcall, -⟩
  · obtain ⟨o, ho⟩ := hlook a (m.asking c)
    exact ⟨o, (Run.outcome_congr (Run.bind_ok hcall)).trans ho⟩
  · exact ⟨_, Run.outcome_failed (Run.bind_error hcall)⟩

omit [World σ] in
theorem require_outcome (holds : Bool) (mismatch : Mismatch) (m : Machine σ) :
    ∃ o, (require holds mismatch).outcome m = (.ok o, m) := by
  cases holds with
  | true => exact ⟨_, rfl⟩
  | false => exact ⟨_, rfl⟩

/-- An attempt is one call, and always comes out somehow. -/
theorem attempt_outcome (probe : Probe) (m : Machine σ) :
    ∃ o, (attempt probe).outcome m = (.ok o, m.asking probe.call) := by
  cases probe with
  | locate locator =>
    rcases call_cases (.locate locator) m with ⟨a, h, -⟩ | ⟨e, h, -⟩
    · exact ⟨_, Run.outcome_ok h⟩
    · exact ⟨_, Run.outcome_failed h⟩
  | click =>
    rcases call_cases .click m with ⟨a, h, -⟩ | ⟨e, h, -⟩
    · exact ⟨_, Run.outcome_ok h⟩
    · exact ⟨_, Run.outcome_failed h⟩
  | geometry measure expected =>
    refine outcome_of_call (fun rect m => ?_) m
    cases measure.check expected rect with
    | ok u => exact ⟨_, rfl⟩
    | error mismatch => exact ⟨_, rfl⟩
  | _ => exact outcome_of_call (fun _ => require_outcome _ _) m

/-- Whether no attempt follows where one, turned round if need be, has come out so: it holds, or it fails
and will not come to hold, or outcomes are captured, or nothing remains of the budget. -/
def Stops (m : Machine σ) (outcome : Except Failure Unit) : Prop :=
  ∀ f, outcome = .error f →
    f.isRetryable = false ∨ m.conditions.capturing = true ∨ m.budget.isExhausted m.clock = true

omit [World σ] in
theorem not_stops_iff {m : Machine σ} {outcome : Except Failure Unit} :
    ¬m.Stops outcome ↔ ∃ f, outcome = .error f ∧ f.isRetryable = true ∧
      m.conditions.capturing = false ∧ m.budget.isExhausted m.clock = false := by
  simp only [Stops, not_forall, not_or, Bool.not_eq_true, Bool.not_eq_false, exists_prop]

/-- What an attempt that has come out somehow counts as. Without `not` it counts as what it is. Behind a
`not`, success is the failure of an assertion, and a failure that might still turn into success is success;
any other failure stays one. -/
inductive Counts (probe : Probe) : Bool → Except Failure Unit → Except Failure Unit → Prop
  | plain (o : Except Failure Unit) : Counts probe false o o
  | held : Counts probe true (.ok ()) (.error (.ofError (.assertion (.held probe))))
  | turned {f : Failure} : f.isRetryable = true → Counts probe true (.error f) (.ok ())
  | kept {f : Failure} : f.isRetryable = false → Counts probe true (.error f) (.error f)

omit [World σ] in
theorem counts_judge (probe : Probe) (negate : Bool) (o : Except Failure Unit) :
    Counts probe negate o (judge probe negate o) := by
  cases negate with
  | false =>
    cases o with
    | ok u => exact .plain _
    | error f => exact .plain _
  | true =>
    cases o with
    | ok u => exact .held
    | error f =>
      rw [judge, Bool.true_and]
      cases hretryable : f.isRetryable with
      | true => exact .turned hretryable
      | false => exact .kept hretryable

/-- A check is tried so many times. Between two attempts the machine sleeps once, and then looks for the
current element if that is called for. The outcome is what the last attempt counts as. -/
inductive Tried (probe : Probe) (negate : Bool) :
    Nat → Machine σ → Except Failure Unit → Machine σ → Prop
  | last {o outcome : Except Failure Unit} {m m' : Machine σ} :
      (attempt probe).outcome m = (.ok o, m') → Counts probe negate o outcome → m'.Stops outcome →
      Tried probe negate 1 m outcome m'
  | again {k : Nat} {o counted outcome : Except Failure Unit} {m m₁ m' : Machine σ} :
      (attempt probe).outcome m = (.ok o, m₁) → Counts probe negate o counted → ¬m₁.Stops counted →
      Tried probe negate k (m₁.rested.refound probe) outcome m' →
      Tried probe negate (k + 1) m outcome m'

/-- How a check ends whose last attempt has come out so. -/
def ending (probe : Probe) : Except Failure Unit → Except Halt Unit
  | .ok () => .ok ()
  | .error f => .error (.failed (surrender probe f))

-- ======== the loop

section Loop

variable {probe : Probe} {negate : Bool} {fuel k : Nat} {m m₁ m' : Machine σ}
  {o outcome : Except Failure Unit}

theorem retry_of_stops (hattempt : (attempt probe).outcome m = (.ok o, m₁))
    (hstops : m₁.Stops (judge probe negate o)) :
    retry probe negate (fuel + 1) m = (ending probe (judge probe negate o), m₁) := by
  rw [retry, Run.bind_ok hattempt]
  cases hjudge : judge probe negate o with
  | ok u => rfl
  | error f =>
    have hcond : (f.isRetryable && !m₁.conditions.capturing && !m₁.budget.isExhausted m₁.clock) =
        false := by
      rcases hstops f hjudge with h | h | h <;> simp [h]
    dsimp only
    rw [Run.get_bind_apply, hcond]
    rfl

theorem retry_of_not_stops (hattempt : (attempt probe).outcome m = (.ok o, m₁))
    (hgoes : ¬m₁.Stops (judge probe negate o)) :
    retry probe negate (fuel + 1) m = retry probe negate fuel (m₁.rested.refound probe) := by
  obtain ⟨f, hjudge, hretryable, hcapturing, hexhausted⟩ := not_stops_iff.1 hgoes
  rw [retry, Run.bind_ok hattempt, hjudge]
  dsimp only
  rw [Run.get_bind_apply, hretryable, hcapturing, hexhausted]
  change (pause >>= _) m₁ = _
  rw [Run.bind_ok (pause_apply m₁), Run.bind_ok (relocate_apply probe m₁.rested)]

/-- A check that ends has been tried some number of times. -/
theorem retry_tried {r : Except Halt Unit} (h : retry probe negate fuel m = (r, m'))
    (hended : Halt.Ended r) :
    ∃ k outcome, Tried probe negate k m outcome m' ∧ r = ending probe outcome := by
  induction fuel generalizing m with
  | zero =>
    cases h
    exact absurd rfl hended
  | succ fuel ih =>
    obtain ⟨o, hattempt⟩ := attempt_outcome probe m
    by_cases hstops : (m.asking probe.call).Stops (judge probe negate o)
    · rw [retry_of_stops hattempt hstops] at h
      cases h
      exact ⟨1, _, .last hattempt (counts_judge ..) hstops, rfl⟩
    · rw [retry_of_not_stops hattempt hstops] at h
      obtain ⟨k, outcome, htried, hr⟩ := ih h
      exact ⟨k + 1, outcome, .again hattempt (counts_judge ..) hstops htried, hr⟩

theorem attempt_quiet (h : (attempt probe).outcome m = (.ok o, m₁)) : Quiet m m₁ :=
  ((discreet.attempt probe).outcome h (Halt.ended_ok _)).toQuiet

/-- Before the next attempt, the clock has moved on as the sleep has it, and nothing that the loop depends
on has changed; something was left of the budget. -/
theorem before_next (hattempt : (attempt probe).outcome m = (.ok o, m₁))
    (hgoes : ¬m₁.Stops outcome) :
    m.conditions.capturing = false ∧ 0 < m.budget.remaining m.clock ∧
      SameScript m (m₁.rested.refound probe) ∧
      (m₁.rested.refound probe).clock =
        wakeTime m.clock (min m.settings.retryInterval (m.budget.remaining m.clock)) := by
  obtain ⟨f, -, -, hcapturing, hexhausted⟩ := not_stops_iff.1 hgoes
  have hquiet := attempt_quiet hattempt
  have hfound := refound_quiet probe m₁.rested
  have hrested : SameScript m₁ m₁.rested := m₁.atTime_sameScript _
  rw [hquiet.conditions] at hcapturing
  rw [hquiet.budget, hquiet.clock, WaitBudget.isExhausted_eq_false_iff] at hexhausted
  refine ⟨hcapturing, Nat.sub_pos_of_lt hexhausted, ?_, ?_⟩
  · exact hquiet.toSameScript.trans (hrested.trans hfound.toSameScript)
  · rw [hfound.clock, rested, atTime_clock, hquiet.settings, hquiet.budget, hquiet.clock]

/-- With pauses that take time, a check ends. -/
theorem retry_ended (hinterval : 0 < m.settings.retryInterval)
    (hfuel : m.budget.remaining m.clock ⌈/⌉ m.settings.retryInterval < fuel) :
    Halt.Ended (retry probe negate fuel m).1 := by
  induction fuel generalizing m with
  | zero => exact absurd hfuel (Nat.not_lt_zero _)
  | succ fuel ih =>
    obtain ⟨o, hattempt⟩ := attempt_outcome probe m
    by_cases hstops : (m.asking probe.call).Stops (judge probe negate o)
    · rw [retry_of_stops hattempt hstops]
      cases judge probe negate o with
      | ok u => exact nofun
      | error f => exact nofun
    · obtain ⟨-, hremains, hsame, hclock⟩ := before_next hattempt hstops
      rw [retry_of_not_stops hattempt hstops]
      have hless := ceilDiv_mono
        (remaining_wakeTime_le m.budget m.clock m.settings.retryInterval) m.settings.retryInterval
      refine ih (by rwa [hsame.settings]) ?_
      rw [hsame.budget, hsame.settings, hclock]
      rw [ceilDiv_eq_succ hinterval hremains] at hfuel
      omega

namespace Tried

theorem pos (h : Tried probe negate k m outcome m') : 1 ≤ k := by
  cases h with
  | last => exact Nat.le_refl 1
  | again => exact Nat.succ_pos _

/-- Where outcomes are captured, there is one attempt, and it takes no time. -/
theorem eq_one (h : Tried probe negate k m outcome m') (hcapturing : m.conditions.capturing = true) :
    k = 1 ∧ m'.clock = m.clock := by
  cases h with
  | last hattempt => exact ⟨rfl, (attempt_quiet hattempt).clock⟩
  | again hattempt _ hgoes =>
    rw [(before_next hattempt hgoes).1] at hcapturing
    cases hcapturing

/-- There are no more pauses than intervals begin in what remains. -/
theorem le (h : Tried probe negate k m outcome m') (hinterval : 0 < m.settings.retryInterval) :
    k ≤ 1 + m.budget.remaining m.clock ⌈/⌉ m.settings.retryInterval := by
  induction h with
  | last => exact Nat.le_add_right ..
  | @again _ _ _ _ m _ _ hattempt _ hgoes _ ih =>
    obtain ⟨-, hremains, hsame, hclock⟩ := before_next hattempt hgoes
    have hless := ceilDiv_mono
      (remaining_wakeTime_le m.budget m.clock m.settings.retryInterval) m.settings.retryInterval
    have hle := ih (by rwa [hsame.settings])
    rw [hsame.budget, hsame.settings, hclock] at hle
    rw [ceilDiv_eq_succ hinterval hremains]
    omega

/-- On whole milliseconds a check is not given up before the last attempt that the budget allows. -/
theorem decided (h : Tried probe negate k m outcome m') (hinterval : 0 < m.settings.retryInterval)
    (hclock : 10 ^ 6 ∣ m.clock) (hcapturing : m.conditions.capturing = false)
    (hearly : k < 1 + m.budget.remaining m.clock ⌈/⌉ m.settings.retryInterval) {f : Failure}
    (hfails : outcome = .error f) : f.isRetryable = false := by
  induction h with
  | @last o outcome m m' hattempt _ hstops =>
    have hquiet := attempt_quiet hattempt
    have hremains : 0 < m.budget.remaining m.clock := by
      rcases Nat.eq_zero_or_pos (m.budget.remaining m.clock) with hzero | hpos
      · rw [hzero, zero_ceilDiv] at hearly
        exact absurd hearly (Nat.lt_irrefl 1)
      · exact hpos
    rcases hstops f hfails with h | h | h
    · exact h
    · rw [hquiet.conditions, hcapturing] at h
      cases h
    · rw [hquiet.budget, hquiet.clock, WaitBudget.isExhausted, decide_eq_true_eq] at h
      omega
  | @again _ _ _ _ m _ _ hattempt _ hgoes _ ih =>
    obtain ⟨-, hremains, hsame, hnext⟩ := before_next hattempt hgoes
    have hleft := remaining_wakeTime_eq m.budget hclock m.settings.dvd_retryInterval
    refine ih (by rwa [hsame.settings]) (hnext ▸ dvd_wakeTime ..) (hsame.conditions ▸ hcapturing) ?_
      hfails
    rw [hsame.budget, hsame.settings, hnext, hleft]
    rw [ceilDiv_eq_succ hinterval hremains] at hearly
    omega

/-- What is not to hold, and is given up though it might still fail, has held at last. -/
theorem eq_held {f : Failure} (h : Tried probe true k m (.error f) m')
    (hretryable : f.isRetryable = true) : f = .ofError (.assertion (.held probe)) := by
  generalize hfails : Except.error f = outcome at h
  induction h with
  | last _ hcounts _ =>
    subst hfails
    cases hcounts with
    | held => rfl
    | kept hfinal =>
      rw [hfinal] at hretryable
      cases hretryable
  | again _ _ _ _ ih => exact ih hfails

/-- However often a check is tried, the clock shows a whole millisecond in the end if it did at first. -/
theorem dvd_clock (h : Tried probe negate k m outcome m') (hclock : 10 ^ 6 ∣ m.clock) :
    10 ^ 6 ∣ m'.clock := by
  induction h with
  | last hattempt => exact (attempt_quiet hattempt).clock ▸ hclock
  | again hattempt _ hgoes _ ih =>
    refine ih ?_
    rw [(before_next hattempt hgoes).2.2.2]
    exact dvd_wakeTime ..

end Tried

omit [World σ] in
/-- How often a probe may be tried is never what ends a check. -/
theorem lt_attempts (m : Machine σ) (limit : Nat) (hinterval : 0 < m.settings.retryIntervalMs) :
    m.budget.remaining m.clock ⌈/⌉ m.settings.retryInterval < m.attempts limit := by
  have hpos := Settings.retryInterval_pos hinterval
  have hmilli : 10 ^ 6 ≤ m.settings.retryInterval := Nat.le_mul_of_pos_left _ hinterval
  rw [attempts, if_neg (Nat.ne_of_gt hpos), Nat.lt_succ_iff, ceilDiv_le_iff_le_mul hpos]
  calc m.budget.remaining m.clock ≤ 10 ^ 6 * (m.budget.remaining m.clock / 10 ^ 6 + 1) := by omega
    _ ≤ _ := Nat.mul_le_mul_right _ hmilli

end Loop

-- ======== milliseconds

/-- If the clock showed a whole millisecond, it does. -/
def KeepsMillis (m m' : Machine σ) : Prop :=
  10 ^ 6 ∣ m.clock → 10 ^ 6 ∣ m'.clock

namespace KeepsMillis

omit [World σ] in
theorem of_same {m m' : Machine σ} (h : m'.clock = m.clock) : KeepsMillis m m' := by
  rw [KeepsMillis, h]
  exact id

instance : IsPreorder (Machine σ) KeepsMillis where
  refl _ := id
  trans _ _ _ h₁ h₂ := h₂ ∘ h₁

theorem durable : Durable (σ := σ) KeepsMillis :=
  .of_quiet (fun h => of_same h.clock) (fun _ _ => id) (fun _ _ h => h) (fun h => h) (fun _ _ => id)
    fun _ _ => id

theorem verify (limit : Nat) (probe : Probe) :
    Run.Keeps (σ := σ) KeepsMillis (verify limit probe) := by
  refine .bind (.modifyGet fun _ => id) fun m₀ m r m' h hended => ?_
  obtain ⟨k, outcome, htried, -⟩ := retry_tried h hended
  exact htried.dvd_clock

theorem keptAt (st : Statement) (m : Machine σ) : KeptAt KeepsMillis st m := by
  intro hscript run limit
  cases hcheck : st.isCheck with
  | true =>
    cases st with
    | locate locator =>
      refine Run.Keeps.from (.bind (.modifyGet fun _ => id) fun negated => ?_) m
      refine .bind (verify limit _) fun _ => ?_
      split
      · exact (Run.Keeps.bind (ask_discreet rfl) fun _ => .pure _).mono fun h => of_same h.clock
      · exact .pure _
    | verify probe => exact (verify limit probe).from m
    | _ => cases hcheck
  | false =>
    cases hplain : st.isPlain with
    | true =>
      exact ((execute_discreet run limit hplain hcheck).mono fun h => of_same h.clock).from m
    | false =>
      -- what is left sets the time or does nothing to it
      intro r m' hrun hended
      cases st with
      | sleep seconds =>
        cases hrun
        exact fun _ => dvd_wakeTime ..
      | popWait =>
        rw [execute, Run.get_bind_apply] at hrun
        cases hpop : m.budget.pop? <;> rw [hpop] at hrun <;> (cases hrun; exact id)
      | control word =>
        rw [execute, conditional_apply] at hrun
        cases hact : word.act m.conditions <;> rw [hact] at hrun <;> (cases hrun; exact id)
      | defaultWait | wait | pushWait | defineAlias =>
        cases hrun
        exact id
      | includeFile | invoke | «while» => cases hscript
      | exec command args again =>
        have hagain : again = false := hscript
        subst hagain
        cases hplain
      | _ => cases hplain

end KeepsMillis

/-- At each moment of every session the clock shows a whole millisecond. -/
theorem dvd_clock_history (settings : Settings) (browser : σ) (disk : Disk)
    (session : List (Errand σ)) :
    ∀ x ∈ history session (new settings browser disk), 10 ^ 6 ∣ x.machine.clock :=
  KeepsMillis.durable.of_history (I := (10 ^ 6 ∣ ·.clock)) (fun _ _ _ => id) KeepsMillis.keptAt id
    (Nat.dvd_zero _)

-- ======== checks

/-- How a check is tried. Whatever the machine and its browser, with pauses that take time, it comes to an
end after at least one attempt, and at most one more than retry intervals are begun in what remains of the
budget. Where outcomes are captured there is one, and it takes no time. Elsewhere, with the clock on a
whole millisecond, there are fewer only if the last attempt, turned round for a negated check, holds or
fails for good. The check comes out as the last attempt does; only a document that may still become
complete is a timeout. And the clock is on a whole millisecond at each moment of every session. -/
theorem check_attempts (probe : Probe) (negate : Bool) (limit : Nat) (m : Machine σ)
    (hinterval : 0 < m.settings.retryIntervalMs) :
    let most := 1 + m.budget.remaining m.clock ⌈/⌉ m.settings.retryInterval
    (∃ k outcome m', Tried probe negate k m outcome m' ∧ 1 ≤ k ∧ k ≤ most ∧
      (m.conditions.capturing = true → k = 1 ∧ m'.clock = m.clock) ∧
      (m.conditions.capturing = false → 10 ^ 6 ∣ m.clock → k < most →
        ∀ f, outcome = .error f → f.isRetryable = false) ∧
      (outcome = .ok () → retry probe negate (m.attempts limit) m = (.ok (), m')) ∧
      ∀ f, outcome = .error f →
        ∃ g, retry probe negate (m.attempts limit) m = (.error (.failed g), m') ∧
          (probe = .navigation ∧ f.isRetryable = true → g = .ofError (.timeout "navigation")) ∧
          (¬(probe = .navigation ∧ f.isRetryable = true) → g = f)) ∧
    ∀ (settings : Settings) (browser : σ) (disk : Disk) (session : List (Errand σ)),
      ∀ x ∈ history session (new settings browser disk), 10 ^ 6 ∣ x.machine.clock := by
  intro most
  refine ⟨?_, dvd_clock_history⟩
  have hpos := Settings.retryInterval_pos hinterval
  have hended : Halt.Ended (retry probe negate (m.attempts limit) m).1 :=
    retry_ended hpos (m.lt_attempts limit hinterval)
  rcases hrun : retry probe negate (m.attempts limit) m with ⟨r, m'⟩
  rw [hrun] at hended
  obtain ⟨k, outcome, htried, rfl⟩ := retry_tried hrun hended
  refine ⟨k, outcome, m', htried, htried.pos, htried.le hpos, htried.eq_one, ?_, ?_, ?_⟩
  · exact fun hcapturing hclock hearly _ => htried.decided hpos hclock hcapturing hearly
  · rintro rfl
    rfl
  · rintro f rfl
    refine ⟨surrender probe f, rfl, ?_, ?_⟩
    · rintro ⟨rfl, hretryable⟩
      rw [surrender, hretryable]
      rfl
    · intro hother
      cases probe with
      | navigation =>
        have hfinal : f.isRetryable = false := by simpa using hother
        rw [surrender, hfinal]
        rfl
      | _ => rfl

/-- A world in which every click succeeds, and nothing else does. -/
structure Yielding

instance : World Yielding where
  answer
    | .click, state, disk => (.ok (), state, disk)
    | _, state, disk => (.error (.noSuchElement "the page"), state, disk)
  start _ _ _ _ _ := .error .notFound

/-- Whether a run has failed, but might not if it were tried again. -/
def mayChange (ran : Except Halt Unit × Machine Yielding) : Bool :=
  match ran.1 with
  | .error (.failed f) => f.isRetryable
  | _ => false

/-- A machine that tries again every millisecond, and has two and a half of them. -/
def hasty : Machine Yielding where
  settings := { retryIntervalMs := 1 }
  browser := {}
  disk := default
  budget := { deadline := 2500000 }
  current := some ⟨.css, "#menu"⟩
  options := default
  screenshotDir := none

/-- That a click fails is tried four times in two and a half retry intervals, if each click succeeds. -/
theorem check_attempts_click :
    ∃ m', 0 < hasty.settings.retryIntervalMs ∧
      retry .click true (hasty.attempts 0) hasty =
        (.error (.failed (.ofError (.assertion (.held .click)))), m') ∧
      Tried .click true 4 hasty (.error (.ofError (.assertion (.held .click)))) m' := by
  have hchange : mayChange (retry .click true (hasty.attempts 0) hasty) = true := by decide +kernel
  have hmost : 1 + hasty.budget.remaining hasty.clock ⌈/⌉ hasty.settings.retryInterval = 4 := by
    decide +kernel
  obtain ⟨⟨k, outcome, m', htried, -, hle, -, hfewer, hholds, hfails⟩, -⟩ :=
    check_attempts .click true 0 hasty (by decide)
  rw [hmost] at hle hfewer
  cases outcome with
  | ok u =>
    rw [hholds rfl] at hchange
    cases hchange
  | error f =>
    obtain ⟨g, hrun, -, hsame⟩ := hfails f rfl
    obtain rfl := hsame (by rintro ⟨⟨⟩, -⟩)
    rw [hrun] at hchange
    have hretryable : g.isRetryable = true := hchange
    have hfour : k = 4 := by
      refine Nat.le_antisymm hle (Nat.le_of_not_lt fun hless => ?_)
      rw [hfewer rfl (Nat.dvd_zero _) hless g rfl] at hretryable
      cases hretryable
    obtain rfl := htried.eq_held hretryable
    exact ⟨m', by decide, hrun, hfour ▸ htried⟩

end Machine

end PageScript
