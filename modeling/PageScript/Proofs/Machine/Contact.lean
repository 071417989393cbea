/-
A machine's contact with its browser, one call at a time.

Apart from the browser itself, a machine knows of it whether one is running and what came of the calls
so far. This changes with calls only. A call to launch a browser or to close it is never made alone:
whether one is running is set right after it. So the two count as one step here, which says at once
which calls may be made, by whether a browser is running, and whether one is running then. What is
true of each step is true of everything that a machine does.
-/
import Mathlib.Logic.Relation
import PageScript.Proofs.Run

namespace PageScript

namespace Call

/-- Whether a call is to bring a browser up: to launch one or to take one over. -/
def launches : Call → Bool
  | .start _ | .connect .. => true
  | _ => false

/-- Whether a call is made no matter whether a browser is running, and leaves that as it is. -/
def isOrdinary : Call → Bool
  | .start _ | .connect .. | .get _ | .close => false
  | _ => true

/-- Whether a call may be made, by whether a browser is running. -/
def isAllowed : Call → (launched : Bool) → Bool
  | .start _, launched => !launched
  | .get _, launched => launched
  | .close, launched => launched
  | _, _ => true

/-- Whether a browser is running after a call, by whether one was running before and whether the call
has succeeded. -/
def leavesRunning : Call → (launched succeeded : Bool) → Bool
  | .start _, launched, succeeded => launched || succeeded
  | .connect .., launched, succeeded => launched || succeeded
  | .close, _, _ => false
  | _, launched, _ => launched

variable {c : Call}

theorem isAllowed_of_isOrdinary (h : c.isOrdinary = true) (launched : Bool) :
    c.isAllowed launched = true := by
  cases c <;> first | rfl | cases h

theorem leavesRunning_of_isOrdinary (h : c.isOrdinary = true) (launched succeeded : Bool) :
    c.leavesRunning launched succeeded = launched := by
  cases c <;> first | rfl | cases h

theorem leavesRunning_of_launches (h : c.launches = true) (launched succeeded : Bool) :
    c.leavesRunning launched succeeded = (launched || succeeded) := by
  cases c <;> first | rfl | cases h

end Call

/-- The call that was made, if it was one. -/
def Deed.call? : Deed → Option Call
  | .call c => some c
  | .log .. => none

-- ======== contact

/-- What a machine has to do with its browser: the browser, whether it is running, what came of the
calls on it, and the calls in the journal. -/
structure Contact (σ : Type) where
  browser : σ
  launched : Bool
  dealings : List (Dealing σ)
  calls : List Call

namespace Contact

variable {σ : Type} [Browser σ]

/-- The contact after a call. -/
def after (p : Contact σ) (c : Call) (disk : Disk) : Contact σ :=
  let answer := Browser.answer c p.browser disk
  let error := BrowserError.of? answer.1
  { browser := answer.2.1
    launched := c.leavesRunning p.launched error.isNone
    dealings := ⟨c, p.launched, error, answer.2.1⟩ :: p.dealings
    calls := c :: p.calls }

/-- One step: a call that may be made. -/
inductive Step (p : Contact σ) : Contact σ → Prop
  | call (c : Call) (disk : Disk) : c.isAllowed p.launched = true → Step p (p.after c disk)

end Contact

namespace Machine

variable {σ : Type}

/-- The calls that have been made, the latest first. -/
def calls (m : Machine σ) : List Call :=
  m.journal.filterMap (·.deed.call?)

def contact (m : Machine σ) : Contact σ where
  browser := m.browser
  launched := m.launched
  dealings := m.dealings
  calls := m.calls

variable [Browser σ]

/-- Between two machines there have been steps of contact, and nothing else that contact shows. -/
def Deals (m m' : Machine σ) : Prop :=
  Relation.ReflTransGen Contact.Step m.contact m'.contact

theorem Deals.of_eq {m m' : Machine σ} (h : m'.contact = m.contact) : Deals m m' := by
  rw [Deals, h]

instance : IsPreorder (Machine σ) Deals where
  refl _ := .refl
  trans _ _ _ := .trans

-- ======== calls

/-- The machine after a call, in which it is not yet said whether a browser is running now. -/
def asking (m : Machine σ) (c : Call) : Machine σ :=
  (Run.ask c m).2

theorem ask_apply (c : Call) (m : Machine σ) :
    Run.ask c m = (.ok (Browser.answer c m.browser m.disk).1, m.asking c) := rfl

/-- What the call failed with, if it fails. -/
def errorOf (m : Machine σ) (c : Call) : Option BrowserError :=
  BrowserError.of? (Browser.answer c m.browser m.disk).1

/-- A call that may be made is a step, once the machine says whether a browser is running now. -/
theorem Deals.of_call {m m' : Machine σ} {c : Call} (hallowed : c.isAllowed m.launched = true)
    (hcontact : m'.contact = { (m.asking c).contact with launched := m'.launched })
    (hlaunched : m'.launched = c.leavesRunning m.launched (m.errorOf c).isNone) : Deals m m' := by
  have hafter : m'.contact = m.contact.after c m.disk := by
    rw [hcontact, hlaunched]
    rfl
  rw [Deals, hafter]
  exact .single (.call c m.disk hallowed)

theorem Deals.asking {m : Machine σ} {c : Call} (h : c.isOrdinary = true) :
    Deals m (m.asking c) :=
  .of_call (Call.isAllowed_of_isOrdinary h _) rfl (Call.leavesRunning_of_isOrdinary h ..).symm

end Machine

end PageScript
