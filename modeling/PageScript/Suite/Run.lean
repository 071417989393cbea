/-
Running tests one after another.

Every test gets a fresh machine and a fresh browser, so that nothing but the disk carries over from
one to the next. A test for which there is no browser fails.
-/
import PageScript.Machine.Script
import PageScript.Suite.Report

namespace PageScript.Suite

/-- What goes from one test to the next. -/
structure State (σ : Type) where
  /-- The browser as the last test left it. -/
  browser : σ
  disk : Disk
  /-- How much time has passed since the first test was started. -/
  elapsed : Nat := 0
  /-- What all machines have done, the latest first. -/
  journal : List Event := []

/-- How tests are run. -/
structure Setup (σ : Type) where
  settings : Settings
  /-- A fresh browser where another one was before. -/
  fresh : σ → Except BrowserError σ
  /-- When the first test is started. -/
  start : Nat := 0

variable {σ : Type} [World σ]

/-- Runs a test. Nothing comes back if its fuel is used up. -/
def runCase (setup : Setup σ) (fuel : Nat) (c : Case) (s : State σ) : Option (Result × State σ) :=
  let startedAt := setup.start + s.elapsed
  match setup.fresh s.browser with
  | .error e =>
    some (⟨c, startedAt, 0, some ("Failed to create driver: " ++ e.message)⟩, s)
  | .ok browser =>
    let (result, m) := (Machine.runScript fuel c.path).run.run (.new setup.settings browser s.disk)
    let after : State σ :=
      { browser := m.browser, disk := m.disk, elapsed := s.elapsed + m.clock
        journal := m.journal ++ s.journal }
    match result with
    | .ok () => some (⟨c, startedAt, m.clock, none⟩, after)
    | .error (.failed f) => some (⟨c, startedAt, m.clock, some f.diagnostic⟩, after)
    | .error .unfinished => none

/-- Runs tests in order. -/
def runCases (setup : Setup σ) (fuel : Nat) :
    List Case → State σ → Option (List Result × State σ)
  | [], s => some ([], s)
  | c :: rest, s => do
    let (first, s) ← runCase setup fuel c s
    let (others, s) ← runCases setup fuel rest s
    return (first :: others, s)

/-- Runs tests in order and reports on them. -/
def run (setup : Setup σ) (fuel : Nat) (cases : List Case) (s : State σ) :
    Option (Report × State σ) :=
  (runCases setup fuel cases s).map fun (results, after) =>
    (⟨after.elapsed - s.elapsed, results⟩, after)

end PageScript.Suite
