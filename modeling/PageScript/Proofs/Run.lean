/-
Runs as functions of the machine: what each way of putting runs together does to the machine that it
starts from.

Most of what is proved of a run has one shape: whatever machine `m` it starts from, if it ends, then
it leaves a machine `m'` with `R m m'`. `Run.Keeps R` says this of a run, and `Run.KeepsAt R` of a
run from one machine. A run that uses up its fuel
has not ended, and nothing is said of it. Where `R` is reflexive and transitive, the runs that keep
it are closed under everything that runs are built with, so that a fact about a long run follows from
the same fact about its single actions.
-/
import Mathlib.Order.Defs.Unbundled
import PageScript.Machine

namespace PageScript

namespace Halt

/-- Whether a run with this result has come to its end, well or not. -/
def Ended {α : Type} (r : Except Halt α) : Prop :=
  r ≠ .error .unfinished

instance {α : Type} : (r : Except Halt α) → Decidable (Ended r)
  | .ok _ => isTrue nofun
  | .error (.failed _) => isTrue nofun
  | .error .unfinished => isFalse fun h => h rfl

theorem ended_ok {α : Type} (a : α) : Ended (.ok a) := nofun

theorem ended_error {α : Type} {e : Halt} : Ended (.error e : Except Halt α) ↔ e ≠ .unfinished :=
  not_congr ⟨Except.error.inj, congrArg _⟩

theorem ended_failed {α : Type} (result : Except Failure α) : Ended (result.mapError .failed) := by
  cases result with
  | ok a => exact ended_ok a
  | error f => exact ended_error.2 (by rintro ⟨⟩)

end Halt

namespace Run

variable {σ α β : Type} {R : Machine σ → Machine σ → Prop}

-- ======== equations

@[simp] theorem pure_apply (a : α) (m : Machine σ) : (pure a : Run σ α) m = (.ok a, m) := rfl

@[simp] theorem throw_apply (e : Halt) (m : Machine σ) :
    (throw e : Run σ α) m = (.error e, m) := rfl

/-- Two runs one after the other: the second starts where the first has ended well. -/
theorem bind_apply (x : Run σ α) (f : α → Run σ β) (m : Machine σ) :
    (x >>= f) m =
      match x m with
      | (.ok a, m') => f a m'
      | (.error e, m') => (.error e, m') := by
  show ExceptT.bind x f m = _
  simp only [ExceptT.bind, ExceptT.mk, StateT.bind, bind]
  rcases x m with ⟨_ | _, _⟩ <;> rfl

theorem bind_ok {x : Run σ α} {f : α → Run σ β} {m m' : Machine σ} {a : α}
    (h : x m = (.ok a, m')) : (x >>= f) m = f a m' := by
  rw [bind_apply, h]

theorem bind_error {x : Run σ α} {f : α → Run σ β} {m m' : Machine σ} {e : Halt}
    (h : x m = (.error e, m')) : (x >>= f) m = (.error e, m') := by
  rw [bind_apply, h]

@[simp] theorem get_bind_apply (f : Machine σ → Run σ β) (m : Machine σ) :
    (get >>= f) m = f m m := rfl

@[simp] theorem set_bind_apply (m' : Machine σ) (f : Unit → Run σ β) (m : Machine σ) :
    (set m' >>= f) m = f () m' := rfl

@[simp] theorem modify_bind_apply (g : Machine σ → Machine σ) (f : Unit → Run σ β)
    (m : Machine σ) : (modify g >>= f) m = f () (g m) := rfl

@[simp] theorem modifyGet_bind_apply (g : Machine σ → α × Machine σ) (f : α → Run σ β)
    (m : Machine σ) : (modifyGet g >>= f) m = f (g m).1 (g m).2 := rfl

@[simp] theorem ofOutcome_ok (a : α) : (ofOutcome (.ok a) : Run σ α) = pure a := rfl

-- ======== outcomes

theorem outcome_ok {x : Run σ α} {m m' : Machine σ} {a : α} (h : x m = (.ok a, m')) :
    x.outcome m = (.ok (.ok a), m') := by
  simp only [outcome, ExceptT.mk, h]

theorem outcome_failed {x : Run σ α} {m m' : Machine σ} {f : Failure}
    (h : x m = (.error (.failed f), m')) : x.outcome m = (.ok (.error f), m') := by
  simp only [outcome, ExceptT.mk, h]

theorem outcome_unfinished {x : Run σ α} {m m' : Machine σ}
    (h : x m = (.error .unfinished, m')) : x.outcome m = (.error .unfinished, m') := by
  simp only [outcome, ExceptT.mk, h]

theorem outcome_congr {x y : Run σ α} {m m₁ : Machine σ} (h : x m = y m₁) :
    x.outcome m = y.outcome m₁ := by
  simp only [outcome, ExceptT.mk, h]

/-- There is an outcome exactly if the run has ended, and then it is what the run has ended with. -/
theorem outcome_cases {x : Run σ α} {m m' : Machine σ} {r : Except Halt (Except Failure α)}
    (h : x.outcome m = (r, m')) (hr : Halt.Ended r) :
    ∃ result, r = .ok result ∧ x m = (result.mapError .failed, m') := by
  rcases hx : x m with ⟨(f | _) | a, m₁⟩
  · rw [outcome_failed hx] at h
    cases h
    exact ⟨.error f, rfl, rfl⟩
  · rw [outcome_unfinished hx] at h
    cases h
    exact absurd rfl hr
  · rw [outcome_ok hx] at h
    cases h
    exact ⟨.ok a, rfl, rfl⟩

theorem eq_of_outcome_ok {x : Run σ α} {m m' : Machine σ} {a : α}
    (h : x.outcome m = (.ok (.ok a), m')) : x m = (.ok a, m') := by
  obtain ⟨_, ⟨⟩, hx⟩ := outcome_cases h (Halt.ended_ok _)
  exact hx

theorem eq_of_outcome_error {x : Run σ α} {m m' : Machine σ} {f : Failure}
    (h : x.outcome m = (.ok (.error f), m')) : x m = (.error (.failed f), m') := by
  obtain ⟨_, ⟨⟩, hx⟩ := outcome_cases h (Halt.ended_ok _)
  exact hx

/-- What is done with the outcome of a run starts where the run has ended. -/
theorem outcome_bind_cases {x : Run σ α} {g : Except Failure α → Run σ β} {m m' : Machine σ}
    {r : Except Halt β} (h : (x.outcome >>= g) m = (r, m')) (hr : Halt.Ended r) :
    ∃ result m₁, x m = (result.mapError .failed, m₁) ∧ g result m₁ = (r, m') := by
  rcases hx : x.outcome m with ⟨e | result, m₁⟩
  · rw [bind_error hx] at h
    cases h
    have hended : Halt.Ended (.error e : Except Halt (Except Failure α)) :=
      Halt.ended_error.2 (Halt.ended_error.1 hr)
    obtain ⟨_, ⟨⟩, -⟩ := outcome_cases hx hended
  · rw [bind_ok hx] at h
    obtain ⟨_, ⟨⟩, hrun⟩ := outcome_cases hx (Halt.ended_ok _)
    exact ⟨result, m₁, hrun, h⟩

-- ======== what is kept

/-- If the run from `m` ends, it leaves a machine that is `R`-related to `m`. -/
def KeepsAt (R : Machine σ → Machine σ → Prop) (x : Run σ α) (m : Machine σ) : Prop :=
  ∀ ⦃r m'⦄, x m = (r, m') → Halt.Ended r → R m m'

/-- Whatever machine the run starts from, if it ends, it leaves one that is `R`-related to it. -/
def Keeps (R : Machine σ → Machine σ → Prop) (x : Run σ α) : Prop :=
  ∀ ⦃m⦄, KeepsAt R x m

theorem Keeps.from {x : Run σ α} (h : Keeps R x) (m : Machine σ) : KeepsAt R x m :=
  @h m

theorem KeepsAt.of_eq {x : Run σ α} {m m' : Machine σ} {r : Except Halt α} (h : x m = (r, m'))
    (hm : R m m') : KeepsAt R x m := by
  intro r₁ m₁ h₁ _
  rw [h] at h₁
  cases h₁
  exact hm

theorem KeepsAt.of_unfinished {x : Run σ α} {m m' : Machine σ}
    (h : x m = (.error .unfinished, m')) : KeepsAt R x m := by
  intro r₁ m₁ h₁ hr
  rw [h] at h₁
  cases h₁
  exact absurd rfl hr

/-- What a run keeps does not depend on what its result is used for. -/
theorem KeepsAt.outcome {x : Run σ α} {m : Machine σ} (hx : KeepsAt R x m) :
    KeepsAt R x.outcome m := by
  intro r m' h hr
  obtain ⟨result, -, hxm⟩ := outcome_cases h hr
  exact hx hxm (Halt.ended_failed result)

theorem Keeps.outcome {x : Run σ α} (hx : Keeps R x) : Keeps R x.outcome :=
  fun m => (hx.from m).outcome

theorem Keeps.mono {S : Machine σ → Machine σ → Prop} {x : Run σ α}
    (hRS : ∀ {m m'}, R m m' → S m m') (h : Keeps R x) : Keeps S x :=
  fun _ _ _ hx hr => hRS (h hx hr)

theorem Keeps.modify {f : Machine σ → Machine σ} (h : ∀ m, R m (f m)) :
    Keeps R (modify f : Run σ Unit) :=
  fun m => .of_eq rfl (h m)

theorem Keeps.modifyGet {f : Machine σ → α × Machine σ} (h : ∀ m, R m (f m).2) :
    Keeps R (modifyGet f : Run σ α) :=
  fun m => .of_eq rfl (h m)

section Preorder

variable [IsPreorder (Machine σ) R]

theorem KeepsAt.trans {x : Run σ α} {m m₁ : Machine σ} (hm : R m m₁) (hx : KeepsAt R x m₁)
    ⦃r : Except Halt α⦄ ⦃m' : Machine σ⦄ (h : x m₁ = (r, m')) (hr : Halt.Ended r) : R m m' :=
  trans_of R hm (hx h hr)

/-- Two runs one after the other keep what each of them keeps where it starts. -/
theorem KeepsAt.bind {x : Run σ α} {f : α → Run σ β} {m : Machine σ} (hx : KeepsAt R x m)
    (hf : ∀ a m₁, x m = (.ok a, m₁) → KeepsAt R (f a) m₁) : KeepsAt R (x >>= f) m := by
  intro r m' h hr
  rcases hxm : x m with ⟨_ | a, m₁⟩
  · rw [bind_error hxm] at h
    cases h
    exact hx hxm (Halt.ended_error.2 (Halt.ended_error.1 hr))
  · rw [bind_ok hxm] at h
    exact (hf a m₁ hxm).trans (hx hxm nofun) h hr

theorem Keeps.bind {x : Run σ α} {f : α → Run σ β} (hx : Keeps R x) (hf : ∀ a, Keeps R (f a)) :
    Keeps R (x >>= f) :=
  fun m => (hx.from m).bind fun a m₁ _ => (hf a).from m₁

theorem Keeps.pure (a : α) : Keeps R (pure a : Run σ α) :=
  fun m => .of_eq rfl (refl_of R m)

theorem Keeps.throw (e : Halt) : Keeps R (throw e : Run σ α) :=
  fun m => .of_eq rfl (refl_of R m)

theorem Keeps.get : Keeps R (get : Run σ (Machine σ)) :=
  fun m => .of_eq rfl (refl_of R m)

theorem Keeps.fail (error : ScriptError) : Keeps R (fail error : Run σ α) :=
  fun m => .of_eq rfl (refl_of R m)

theorem Keeps.ofExcept {ε : Type} (toError : ε → ScriptError) (e : Except ε α) :
    Keeps R (ofExcept toError e : Run σ α) := by
  cases e with
  | ok a => exact .pure a
  | error e => exact .fail _

theorem Keeps.ofOutcome (e : Except Failure α) : Keeps R (ofOutcome e : Run σ α) := by
  cases e with
  | ok a => exact .pure a
  | error f => exact .throw _

theorem Keeps.forM {f : α → Run σ PUnit} (hf : ∀ a, Keeps R (f a)) (l : List α) :
    Keeps R (l.forM f) := by
  induction l with
  | nil => exact .pure _
  | cons a l ih => exact (hf a).bind fun _ => ih

end Preorder

end Run

end PageScript
