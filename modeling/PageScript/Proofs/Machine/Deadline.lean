/-
One deadline for all checks.

A check that does not hold is tried again until the deadline of the budget has passed. Every check
looks at the same deadline, so that the time that checks take does not add up: a request that sets
neither the clock nor the budget by a statement of its own ends, however many checks fail on its
way, by the millisecond in which the deadline lies.
-/
import PageScript.Proofs.Machine.Conditional
import PageScript.Proofs.Machine.Request

namespace PageScript

namespace Machine

variable {σ : Type}

/-- The deadline has not moved, and if time has passed, then not past the millisecond in which the
deadline lies. -/
structure OnTime (m m' : Machine σ) : Prop where
  deadline : m'.budget.deadline = m.budget.deadline
  clock_le : m'.clock ≤ max m.clock (firstMilli m.budget.deadline)

namespace OnTime

variable {m m₁ m₂ : Machine σ}

theorem of_same (hclock : m₁.clock = m.clock) (hdeadline : m₁.budget.deadline = m.budget.deadline) :
    OnTime m m₁ where
  deadline := hdeadline
  clock_le := hclock ▸ Nat.le_max_left ..

theorem of_patient (h : Patient m m₁) : OnTime m m₁ where
  deadline := congrArg _ h.budget
  clock_le := h.clock_le

theorem trans (h₁ : OnTime m m₁) (h₂ : OnTime m₁ m₂) : OnTime m m₂ where
  deadline := h₂.deadline.trans h₁.deadline
  clock_le := by
    have hle := h₂.clock_le
    rw [h₁.deadline] at hle
    have := h₁.clock_le
    omega

instance : IsPreorder (Machine σ) OnTime where
  refl _ := of_same rfl rfl
  trans _ _ _ := trans

theorem durable [World σ] : Durable (σ := σ) OnTime :=
  .of_quiet (fun h => of_patient h.patient) (fun _ _ => of_same rfl rfl)
    (fun _ _ h => ⟨h.deadline, h.clock_le⟩) (fun h => ⟨h.deadline, h.clock_le⟩)
    (fun _ _ => of_same rfl rfl) fun _ _ => of_same rfl rfl

/-- A statement that does not set the time by itself keeps the deadline, and ends in time if it is a
check. -/
theorem keptAt [World σ] {st : Statement} (h : st.setsTime = false) (m : Machine σ) :
    KeptAt OnTime st m := by
  intro hscript run limit r m' hrun hended
  rcases execute_cases hscript hrun hended with
    hdiligent | ⟨htime, -⟩ | ⟨-, rfl⟩ | ⟨_, -, rfl⟩ | ⟨_, _, -, -, rfl⟩
  · exact of_patient hdiligent.toPatient
  · rw [h] at htime
    cases htime
  · exact of_same rfl rfl
  · exact of_same rfl rfl
  · exact of_same rfl rfl

end OnTime

/-- One deadline is shared by all checks of a request: however it ends, if no statement in it sets the
time, the deadline is where it was, and the clock stands no later than it did or than the first whole
millisecond at which the deadline has passed. -/
theorem deadline_shared [World σ] (fuel : Nat) (request : Request) {m m' : Machine σ}
    {r : Except Halt Unit} (hrun : request.run fuel m = (r, m')) (hended : Halt.Ended r)
    (htime : ∀ {st m₁}, request.Performs fuel m st m₁ → st.setsTime = false) :
    m'.budget.deadline = m.budget.deadline ∧
      m'.clock ≤ max m.clock (firstMilli m.budget.deadline) := by
  have kept : OnTime m m' :=
    OnTime.durable.of_request (fun hp => OnTime.keptAt (htime hp) _) hrun hended
  exact ⟨kept.deadline, kept.clock_le⟩

/-- A request to click. -/
def clicking : Request :=
  .tokens [.word "click" 1] {}

theorem clicking_performs {st : Statement} {m₁ : Machine Offline}
    (hp : clicking.Performs 2 (Offline.machine 1500000) st m₁) : st = .verify .click := by
  obtain ⟨s, m, ⟨⟩, hp⟩ := hp
  obtain ⟨e, m', hstop⟩ : ∃ e m', turn (statements 1) 1
      (tokensStart (Offline.machine 1500000) [.word "click" 1] {}).1
      (tokensStart (Offline.machine 1500000) [.word "click" 1] {}).2 = (.error e, m') := ⟨_, _, rfl⟩
  exact hp.eq_of_stops rfl rfl hstop

/-- A click that never succeeds, under a budget of one and a half milliseconds, is given up when two
have passed: the bound is reached. -/
theorem deadline_shared_click :
    ∃ r m', clicking.run 2 (Offline.machine 1500000) = (r, m') ∧ Halt.Ended r ∧
      m'.clock = 2000000 ∧ m'.budget.deadline = 1500000 ∧
      m'.clock ≤ max 0 (firstMilli 1500000) := by
  have hended : Halt.Ended (clicking.run 2 (Offline.machine 1500000)).1 := by decide +kernel
  have hclock : (clicking.run 2 (Offline.machine 1500000)).2.clock = 2000000 := by decide +kernel
  rcases hrun : clicking.run 2 (Offline.machine 1500000) with ⟨r, m'⟩
  rw [hrun] at hended hclock
  exact ⟨r, m', rfl, hended, hclock,
    deadline_shared 2 clicking hrun hended fun hp => clicking_performs hp ▸ rfl⟩

end Machine

end PageScript
