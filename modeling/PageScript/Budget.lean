/-
Time, and the one wait budget that all checks of a script share.

Instants and durations are whole nanoseconds. A budget is a deadline: what remains of it is computed
from the clock each time, so however many checks fail, together they never wait past it.
-/
import PageScript.Number.Binary

namespace PageScript

namespace Duration

/-- The longest wait that a script can ask for: 365 days. -/
def longest : Nat := 365 * 24 * 60 * 60 * 10 ^ 9

/-- A number of milliseconds. -/
def ofMillis (ms : Nat) : Nat := ms * 10 ^ 6

/-- A number of seconds rounded to nanoseconds, a half going to the even one. What is negative or no
number counts as zero, and nothing is longer than the longest wait. -/
def ofSeconds (seconds : Float) : Nat :=
  match Number.decode seconds with
  | .nan => 0
  | .infinite negative => if negative then 0 else longest
  | .finite true _ _ => 0
  | .finite false m q =>
    let (num, den) := if 0 ≤ q then (m * 2 ^ q.toNat, 1) else (m, 2 ^ (-q).toNat)
    min longest (Number.divNearest (num * 10 ^ 9) den)

end Duration

/-- The instant at which a sleep that starts at `now` ends: the first whole millisecond at which the
duration is over. -/
def wakeTime (now duration : Nat) : Nat :=
  (now + duration + (10 ^ 6 - 1)) / 10 ^ 6 * 10 ^ 6

/-- A deadline, and the deadlines put aside for later. -/
structure WaitBudget where
  deadline : Nat
  saved : List Nat := []
  deriving Repr, DecidableEq, Inhabited

namespace WaitBudget

/-- A budget that runs from `now`. A script asks for no more than `Duration.longest`, since every wait
comes from `Duration.ofSeconds`, and a clock can count a year further: what to do with a deadline that
it cannot count has no part here. -/
def start (now duration : Nat) : WaitBudget :=
  { deadline := now + duration }

/-- Sets the deadline anew, as far ahead as `start` does. -/
def arm (b : WaitBudget) (now duration : Nat) : WaitBudget :=
  { b with deadline := now + duration }

/-- What remains of the budget. -/
def remaining (b : WaitBudget) (now : Nat) : Nat :=
  b.deadline - now

/-- Whether nothing remains. -/
def isExhausted (b : WaitBudget) (now : Nat) : Bool :=
  b.remaining now = 0

/-- Puts the deadline aside. -/
def push (b : WaitBudget) : WaitBudget :=
  { b with saved := b.deadline :: b.saved }

/-- Takes back the deadline put aside last, if there is one. -/
def pop? (b : WaitBudget) : Option WaitBudget :=
  match b.saved with
  | [] => none
  | deadline :: saved => some { deadline, saved }

/-- How many deadlines are put aside. -/
def depth (b : WaitBudget) : Nat :=
  b.saved.length

end WaitBudget

end PageScript
