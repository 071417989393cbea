/-
Days and times of day by the calendar, counted from the start of 1970.

Months and days may be out of their ranges; they are then carried over, as in the thirty-first of
June, which is the first of July.
-/

namespace PageScript.Shell.Date

/-- A time by the calendar. -/
structure Civil where
  year : Int := 1970
  month : Int := 1
  day : Int := 1
  hour : Int := 0
  minute : Int := 0
  second : Int := 0
  deriving Repr, DecidableEq, Inhabited

/-- The number of a day, counted from the first day of 1970. Years are counted from March on, so
that the odd day of a leap year is the last of its year. -/
def dayNumber (year month day : Int) : Int :=
  let months := year * 12 + (month - 1)
  let year := (months - 2).fdiv 12
  let month := (months - 2).fmod 12
  year * 365 + year.fdiv 4 - year.fdiv 100 + year.fdiv 400 + (153 * month + 2).fdiv 5 + day - 1 -
    719468

def ofDayNumber (n : Int) : Int × Int × Int :=
  let all := n + 719468
  let era := all.fdiv 146097
  let inEra := all.fmod 146097
  let yearInEra := (inEra - inEra.fdiv 1460 + inEra.fdiv 36524 - inEra.fdiv 146096).fdiv 365
  let inYear := inEra - (365 * yearInEra + yearInEra.fdiv 4 - yearInEra.fdiv 100)
  let month := (5 * inYear + 2).fdiv 153
  let day := inYear - (153 * month + 2).fdiv 5 + 1
  let year := era * 400 + yearInEra
  if month < 10 then (year, month + 3, day) else (year + 1, month - 9, day)

namespace Civil

def seconds (c : Civil) : Int :=
  dayNumber c.year c.month c.day * 86400 + c.hour * 3600 + c.minute * 60 + c.second

def ofSeconds (s : Int) : Civil :=
  let (year, month, day) := ofDayNumber (s.fdiv 86400)
  let clock := s.fmod 86400
  { year, month, day, hour := clock.fdiv 3600, minute := clock.fmod 3600 / 60
    second := clock.fmod 60 }

def weekday (c : Civil) : Int :=
  (dayNumber c.year c.month c.day + 4).fmod 7

def yearDay (c : Civil) : Int :=
  dayNumber c.year c.month c.day - dayNumber c.year 1 1

def week (c : Civil) (first : Int) : Int :=
  (c.yearDay + 7 - (c.weekday - first).fmod 7).fdiv 7

/-- The year and the week by the standard: weeks start on Monday, and the first one is the one with
the first Thursday. -/
def standardWeek (c : Civil) : Int × Int :=
  let thursday := dayNumber c.year c.month c.day - (c.weekday + 6).fmod 7 + 3
  let (year, _, _) := ofDayNumber thursday
  (year, (thursday - dayNumber year 1 1).fdiv 7 + 1)

end Civil

def monthNames : List String :=
  ["January", "February", "March", "April", "May", "June", "July", "August", "September", "October",
    "November", "December"]

def dayNames : List String :=
  ["Sunday", "Monday", "Tuesday", "Wednesday", "Thursday", "Friday", "Saturday"]

end PageScript.Shell.Date
