/-
Launching a WebDriver server program.

A program that is launched gets a port to listen on. It is then asked for its status every tenth of a
second until it answers well, ends, or has used up the time it is given. What a program does is up to the
host that it is started on.
-/
import PageScript.Browser.Error
import PageScript.Disk
import PageScript.Settings

namespace PageScript.WebDriver

/-- How a server program is launched. -/
structure Launch where
  program : Path
  /-- The port it is to listen on; without one, a free port is taken. -/
  port : Option Nat
  /-- The time it is given, in milliseconds. -/
  timeoutMs : Nat
  deriving Repr, DecidableEq, Inhabited

/-- The launch that settings describe. -/
def Launch.ofSettings (s : BrowserSettings) : Launch where
  program := s.driverBinary
  port := s.driverPort
  timeoutMs := s.startupTimeoutSecs * 1000

/-- How a program goes on that has been started: how often it is asked for its status before its time is
up, and, if it ends, after how many times this is seen, and how it has ended. -/
structure Startup where
  checks : Nat
  exit : Option (Nat × ExitStatus) := none

/-- Where server programs are started. -/
structure Host where
  /-- A port that is free, or why there is none. -/
  freePort : Except IoError Nat := .ok 49152
  /-- Starts a program with an argument, for so many milliseconds: why it does not start, or how it goes
  on, and what it has made of the disk. -/
  start : Disk → Path → String → Nat → Except IoError (Startup × Disk) :=
    fun _ _ _ _ => .error .notFound
  deriving Inhabited

/-- The port for a launch. -/
def Host.portFor (h : Host) (l : Launch) : Except IoError Nat :=
  match l.port with
  | some port => .ok port
  | none => h.freePort

/-- The address of a program that listens on a port. -/
def localAddress (port : Nat) : String :=
  "http://127.0.0.1:" ++ Number.natText port

end PageScript.WebDriver
