/-
Signals: how programs are told to stop, and what becomes of them.
-/
import PageScript.Number.Decimal

namespace PageScript.Signal

/-- The names of the signals from 1 on. -/
def names : List String :=
  ["HUP", "INT", "QUIT", "ILL", "TRAP", "ABRT", "BUS", "FPE", "KILL", "USR1", "SEGV", "USR2",
    "PIPE", "ALRM", "TERM", "STKFLT", "CHLD", "CONT", "STOP", "TSTP", "TTIN", "TTOU", "URG", "XCPU",
    "XFSZ", "VTALRM", "PROF", "WINCH", "IO", "PWR", "SYS"]

/-- The greatest number of a signal. -/
def greatest : Nat := 64

/-- The name of a signal. -/
def name? (n : Nat) : Option String :=
  if n = 0 then none else names[n - 1]?

/-- The name of a signal, or else its number. -/
def display (n : Nat) : String :=
  match name? n with
  | some name => name
  | none =>
    if n = 34 then "RTMIN"
    else if 34 < n ∧ n ≤ 49 then "RTMIN+" ++ Number.natText (n - 34)
    else if n = 64 then "RTMAX"
    else if 49 < n ∧ n < 64 then "RTMAX-" ++ Number.natText (64 - n)
    else Number.natText n

/-- The signal with a given name, in any case of letters, or number. -/
def ofName? (s : String) : Option Nat :=
  let upper := s.map Char.toUpper
  match names.idxOf? upper with
  | some i => some (i + 1)
  | none =>
    if s ≠ "" ∧ s.toList.all Char.isDigit ∧ Number.digitsValue s.toList ≤ greatest then
      some (Number.digitsValue s.toList)
    else if s.isEmpty then none
    else (List.range (greatest + 1)).find? fun n => 34 ≤ n ∧ display n = upper

/-- Whether a program goes on as if there had been no signal. -/
def isHarmless (n : Nat) : Bool :=
  n = 0 || n = 17 || n = 18 || n = 23 || n = 28

/-- What is said of a program that a signal has ended. -/
def description (n : Nat) : String :=
  match n with
  | 1 => "Hangup"
  | 2 => "Interrupt"
  | 3 => "Quit"
  | 4 => "Illegal instruction"
  | 5 => "Trace/breakpoint trap"
  | 6 => "Aborted"
  | 7 => "Bus error"
  | 8 => "Floating point exception"
  | 9 => "Killed"
  | 10 => "User defined signal 1"
  | 11 => "Segmentation fault"
  | 12 => "User defined signal 2"
  | 13 => "Broken pipe"
  | 14 => "Alarm clock"
  | 15 => "Terminated"
  | 16 => "Stack fault"
  | 24 => "CPU time limit exceeded"
  | 25 => "File size limit exceeded"
  | 26 => "Virtual timer expired"
  | 27 => "Profiling timer expired"
  | 29 => "I/O possible"
  | 30 => "Power failure"
  | 31 => "Bad system call"
  | _ =>
    if 34 ≤ n then "Real-time signal " ++ Number.natText (n - 34)
    else "Unknown signal " ++ Number.natText n

end PageScript.Signal
