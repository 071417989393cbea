/-
Points in time as dates.

A point in time is counted in nanoseconds from the start of 1970. For its date, years are counted
from March on, so that the odd day of a leap year is the last day of its year.
-/

namespace PageScript.Calendar

/-- A day of the calendar. -/
structure Date where
  year : Nat
  month : Nat
  day : Nat
  deriving Repr, DecidableEq, Inhabited

/-- Days from the first of March of the year zero to the first day of 1970. -/
def daysBefore1970 : Nat := 719468

/-- Days of 400 years, after which the calendar repeats. -/
def daysPerEra : Nat := 146097

/-- The date so many days after the first day of 1970. -/
def Date.ofDays (days : Nat) : Date :=
  let all := days + daysBefore1970
  let inEra := all % daysPerEra
  let yearInEra := (inEra - inEra / 1460 + inEra / 36524 - inEra / 146096) / 365
  let inYear := inEra - (365 * yearInEra + yearInEra / 4 - yearInEra / 100)
  let month := (5 * inYear + 2) / 153
  { year := all / daysPerEra * 400 + yearInEra + (if month < 10 then 0 else 1)
    month := if month < 10 then month + 3 else month - 9
    day := inYear - (153 * month + 2) / 5 + 1 }

/-- A number in at least so many digits. -/
def padded (width n : Nat) : String :=
  let ds := Nat.toDigits 10 n
  String.ofList (List.replicate (width - ds.length) '0' ++ ds)

/-- The fraction of a second, in as many groups of three digits as it needs. -/
def fraction (nanos : Nat) : String :=
  if nanos = 0 then ""
  else if nanos % 1000000 = 0 then "." ++ padded 3 (nanos / 1000000)
  else if nanos % 1000 = 0 then "." ++ padded 6 (nanos / 1000)
  else "." ++ padded 9 nanos

/-- A point in time as text: `1970-01-01T00:00:00Z`. -/
def text (nanos : Nat) : String :=
  let seconds := nanos / 1000000000
  let d := Date.ofDays (seconds / 86400)
  let clock := seconds % 86400
  padded 4 d.year ++ "-" ++ padded 2 d.month ++ "-" ++ padded 2 d.day ++ "T" ++
    padded 2 (clock / 3600) ++ ":" ++ padded 2 (clock / 60 % 60) ++ ":" ++ padded 2 (clock % 60) ++
    fraction (nanos % 1000000000) ++ "Z"

end PageScript.Calendar
