/-
The machine that runs scripts: its state, and the actions that all statements are made of.

A machine keeps what a script can see and change, and a journal of all that it did: the calls it
made on the browser and the lines it logged, with their times. What came of the calls is kept beside
it. Time passes only in sleeps.

A run ends well or with a failure, or it does not end, which it says instead of giving a result when
its fuel is used up. A failure takes nothing back.
-/
import PageScript.Alias
import PageScript.Browser.Call
import PageScript.Budget
import PageScript.Condition
import PageScript.Frame
import PageScript.Settings

namespace PageScript

-- ======== journal

/-- How much a log line matters. -/
inductive LogLevel where
  | info
  | warn
  | error
  deriving Repr, DecidableEq, Inhabited

/-- Whose line it is: the machine's own, the page's console's, or another program's. -/
inductive LogTarget where
  | engine
  | console
  | exec
  deriving Repr, DecidableEq, Inhabited

/-- Something that the machine did. -/
inductive Deed where
  | call (call : Call)
  | log (level : LogLevel) (target : LogTarget) (message : String)
  deriving Inhabited

/-- Something that the machine did, and when. -/
structure Event where
  time : Nat
  deed : Deed
  deriving Inhabited

/-- What a call failed with, by its answer. -/
def BrowserError.of? {α : Type} : Except BrowserError α → Option BrowserError
  | .ok _ => none
  | .error e => some e

/-- A call on a browser, and what came of it. -/
structure Dealing (σ : Type) where
  call : Call
  /-- Whether a browser was running when the call was made. -/
  launched : Bool
  /-- What the call failed with, if it failed. -/
  error : Option BrowserError
  /-- The browser that the call left. -/
  browser : σ

-- ======== machine

/-- The state of a machine that drives a browser with states `σ`. -/
structure Machine (σ : Type) where
  settings : Settings
  browser : σ
  disk : Disk
  /-- The time since the start, in nanoseconds. -/
  clock : Nat := 0
  /-- What has been done, the latest first. -/
  journal : List Event := []
  /-- What came of the calls on the browser, the latest first. -/
  dealings : List (Dealing σ) := []
  arena : Arena := {}
  aliases : AliasTable := {}
  frames : FrameStack := {}
  conditions : ConditionStack := {}
  budget : WaitBudget
  /-- Whether the next check is turned round. -/
  negateNext : Bool := false
  /-- Whether console messages are logged after each statement. -/
  autoLog : Bool := false
  /-- What the current element was looked up by. -/
  current : Option Locator := none
  /-- The options for the next launch. -/
  options : BrowserOptions
  /-- Whether a browser is running. -/
  launched : Bool := false
  pageLoadTimeout : Option Float := none
  screenshotDir : Option Path
  /-- The echoed texts, the latest first. -/
  transcript : List String := []

namespace Machine

/-- A machine at its start. -/
def new {σ : Type} (settings : Settings) (browser : σ) (disk : Disk) : Machine σ where
  settings
  browser
  disk
  budget := .start 0 (settings.scaledWait settings.defaultWaitSecs)
  options := settings.browserOptions
  screenshotDir := settings.screenshotDir

end Machine

-- ======== runs

/-- Why a run stopped before its end. -/
inductive Halt where
  | failed (failure : Failure)
  /-- The fuel was used up. -/
  | unfinished
  deriving Inhabited

/-- Something that a machine does. -/
abbrev Run (σ : Type) := ExceptT Halt (StateM (Machine σ))

namespace Run

variable {σ α : Type}

/-- Fails for a reason. -/
def fail (error : ScriptError) : Run σ α :=
  throw (.failed (.ofError error))

/-- Goes on with a value, or fails for a reason. -/
def ofExcept {ε : Type} (toError : ε → ScriptError) : Except ε α → Run σ α
  | .ok a => pure a
  | .error e => fail (toError e)

/-- The result of a run, a failure being a result too. -/
def outcome (x : Run σ α) : Run σ (Except Failure α) :=
  ExceptT.mk fun m =>
    match x m with
    | (.ok a, m) => (.ok (.ok a), m)
    | (.error (.failed f), m) => (.ok (.error f), m)
    | (.error .unfinished, m) => (.error .unfinished, m)

/-- Goes on with the value of a result, or stops with its failure. -/
def ofOutcome : Except Failure α → Run σ α
  | .ok a => pure a
  | .error f => throw (.failed f)

-- ======== actions

/-- Logs a line. -/
def log (level : LogLevel) (target : LogTarget) (message : String) : Run σ Unit :=
  modify fun m => { m with journal := ⟨m.clock, .log level target message⟩ :: m.journal }

/-- Logs a line of ordinary course. -/
def info (message : String) : Run σ Unit :=
  log .info .engine message

/-- Logs a line of warning. -/
def warn (message : String) : Run σ Unit :=
  log .warn .engine message

/-- Lets time pass. -/
def sleep (duration : Nat) : Run σ Unit :=
  modify fun m => { m with clock := wakeTime m.clock duration }

/-- Makes a call on the browser, and gives its answer or its error. -/
def ask [Browser σ] (c : Call) : Run σ (Except BrowserError c.Reply) :=
  modifyGet fun m =>
    let (reply, browser, disk) := Browser.answer c m.browser m.disk
    (reply, { m with
      browser, disk
      journal := ⟨m.clock, .call c⟩ :: m.journal
      dealings := ⟨c, m.launched, BrowserError.of? reply, browser⟩ :: m.dealings })

/-- Makes a call on the browser; its error is a failure. -/
def call [Browser σ] (c : Call) : Run σ c.Reply := do
  ofExcept .browser (← ask c)

/-- Changes the disk; that this went wrong is a failure. -/
def onDisk (change : Disk → Except IoError Unit × Disk) : Run σ Unit := do
  let (result, disk) := change (← get).disk
  modify fun m => { m with disk }
  ofExcept (.io none) result

end Run

end PageScript
