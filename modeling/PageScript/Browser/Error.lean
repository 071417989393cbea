/-
What can go wrong when a browser is driven.
-/
import PageScript.Disk.Error
import PageScript.Disk.Path
import PageScript.Number.Decimal
import PageScript.Signal

namespace PageScript

/-- How a program ended. -/
inductive ExitStatus where
  | code (n : Nat)
  | signal (n : Nat)
  deriving Repr, DecidableEq, Inhabited

namespace ExitStatus

/-- Whether a program ended well. -/
def isSuccess (s : ExitStatus) : Bool :=
  s = .code 0

/-- The status as a number; a program that a signal ended has none and counts as -1. -/
def number : ExitStatus → Int
  | .code n => n
  | .signal _ => -1

/-- The status as messages show it. -/
def display : ExitStatus → String
  | .code n => "exit status: " ++ Number.natText n
  | .signal n =>
    "signal: " ++ Number.natText n ++
      match Signal.name? n with
      | some name => " (SIG" ++ name ++ ")"
      | none => ""

end ExitStatus

/-- Why a browser driver program could not be launched. -/
inductive LaunchError where
  | spawn (program : Path) (cause : IoError)
  | exited (status : ExitStatus)
  | notReady (checks : Nat)
  /-- A reason described elsewhere. -/
  | other (reason : String)
  deriving Repr, DecidableEq, Inhabited

/-- The wording of a launch error. -/
def LaunchError.message : LaunchError → String
  | .spawn program cause => "Failed to spawn " ++ program.text ++ ": " ++ cause.message
  | .exited status => "driver exited during startup with " ++ status.display
  | .notReady checks => "WebDriver not ready after " ++ Number.natText checks ++ " status checks"
  | .other reason => reason

/-- Why a call on a browser failed. -/
inductive BrowserError where
  | noSuchElement (what : String)
  | noCurrentElement
  | notStarted
  /-- An error that the browser's server answered. -/
  | protocol (status : Nat) (code message : String)
  | launch (cause : LaunchError)
  | unsupported (what : String)
  /-- No answer could be had from the browser's server. -/
  | http (detail : String)
  | io (cause : IoError)
  /-- An answer was not of the expected shape. -/
  | json (detail : String)
  /-- An image was not encoded as expected. -/
  | base64 (detail : String)
  deriving Repr, DecidableEq, Inhabited

namespace BrowserError

/-- The wording of a browser error. -/
def message : BrowserError → String
  | .noSuchElement what => "No such element: " ++ what
  | .noCurrentElement => "No element selected"
  | .notStarted => "Browser not started"
  | .protocol status code message =>
    "WebDriver error " ++ Number.natText status ++ " (" ++ code ++ "): " ++ message
  | .launch cause => "Failed to launch driver: " ++ cause.message
  | .unsupported what => "Unsupported operation: " ++ what
  | .http detail => "HTTP error: " ++ detail
  | .io cause => "IO error: " ++ cause.message
  | .json detail => "JSON error: " ++ detail
  | .base64 detail => "Invalid base64 data: " ++ detail

/-- Whether the page may still come to be as expected, so that trying again makes sense. -/
def isTransient : BrowserError → Bool
  | .noSuchElement _ => true
  | .noCurrentElement => true
  | _ => false

end BrowserError

end PageScript
