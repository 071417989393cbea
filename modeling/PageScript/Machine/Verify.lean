/-
Checks under the wait budget.

A check is tried, and tried again after a pause as long as it may still come to hold and the budget
is not spent. A pause is never longer than what remains, so the last attempt falls on the deadline.
As a predicate of an `if` a check is tried once.
-/
import PageScript.Machine

namespace PageScript.Machine

variable {σ : Type}

/-- Fails unless a check holds. -/
def require (holds : Bool) (mismatch : Mismatch) : Run σ Unit :=
  if holds then pure () else Run.fail (.assertion mismatch)

/-- Tries a probe once. -/
def attempt [Browser σ] : Probe → Run σ Unit
  | .locate locator => Run.call (.locate locator)
  | .click => Run.call .click
  | .text expected => do
    let actual ← Run.call .text
    require (actual = expected) (.text expected actual)
  | .tag expected => do
    let actual ← Run.call .tagName
    require (Text.eqIgnoringCase actual expected) (.tag expected actual)
  | .state which wanted => do
    let actual ← Run.call (.state which)
    require (wanted = actual) (.state which wanted actual)
  | .geometry measure expected => do
    let rect ← Run.call .rect
    Run.ofExcept .assertion (measure.check expected rect)
  | .checksum expected => do
    let actual ← Run.call .checksum
    require (actual = expected) (.checksum expected actual)
  | .navigation => do
    let readiness ← Run.call .readyState
    require (readiness = "complete") (.document readiness)

/-- What the outcome of an attempt means for a check that may be turned round: an outcome that might
still change counts as the opposite. -/
def judge (probe : Probe) (negate : Bool) : Except Failure Unit → Except Failure Unit
  | .ok () => if negate then .error (.ofError (.assertion (.held probe))) else .ok ()
  | .error f => if negate && f.isRetryable then .ok () else .error f

/-- The failure of a check that is given up: a document that never became complete is a timeout. -/
def surrender (probe : Probe) (f : Failure) : Failure :=
  match probe with
  | .navigation => if f.isRetryable then .ofError (.timeout probe.display) else f
  | _ => f

/-- Looks the current element up again; the page may have replaced it. -/
def relocate [Browser σ] (probe : Probe) : Run σ Unit := do
  if probe.needsElement then
    match (← get).current with
    | some locator => let _ ← Run.ask (.locate locator)
    | none => pure ()

/-- Pauses between two attempts. -/
def pause : Run σ Unit := do
  let m ← get
  Run.sleep (min m.settings.retryInterval (m.budget.remaining m.clock))

/-- Tries a probe up to `fuel` times. -/
def retry [Browser σ] (probe : Probe) (negate : Bool) : (fuel : Nat) → Run σ Unit
  | 0 => throw .unfinished
  | fuel + 1 => do
    match judge probe negate (← (attempt probe).outcome) with
    | .ok () => pure ()
    | .error f =>
      let m ← get
      if f.isRetryable && !m.conditions.capturing && !m.budget.isExhausted m.clock then
        pause
        relocate probe
        retry probe negate fuel
      else throw (.failed (surrender probe f))

/-- How often a probe can be tried in what remains of the budget: a pause ends on a whole
millisecond. Without pauses no time passes, and only `limit` bounds it. -/
def attempts (m : Machine σ) (limit : Nat) : Nat :=
  if m.settings.retryInterval = 0 then limit + 1 else m.budget.remaining m.clock / 10 ^ 6 + 2

/-- Runs a check, turned round if the script said so. `limit` bounds how often it is tried without
pauses. -/
def verify [Browser σ] (limit : Nat) (probe : Probe) : Run σ Unit := do
  let m ← modifyGet fun m => (m, { m with negateNext := false })
  retry probe m.negateNext (m.attempts limit)

end PageScript.Machine
