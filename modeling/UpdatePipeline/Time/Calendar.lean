import UpdatePipeline.Text.Columns
set_option autoImplicit false

/-!
# Time: the calendar

Dates are those of the Gregorian calendar, extended to the past, in universal time.
Days are counted from 1 January 1970.  Inside the computation a year begins in March,
so that a leap day comes at its end: four hundred such years have 146097 days.
-/

namespace UpdatePipeline

/-- A day of the calendar. -/
structure Date where
  year : Int
  /-- From 1 to 12. -/
  month : Nat
  /-- From 1 to 31. -/
  day : Nat
  deriving DecidableEq, Repr, Inhabited

namespace Date

/-- The days from 1 March of the year 0 to 1 January 1970. -/
def daysBefore1970 : Int := 719468

/-- The days of four hundred years. -/
def daysOfCycle : Nat := 146097

/-- The year, counted from March and from the start of its cycle, of a day of the
cycle: among the days passed, one in four years, less one in a hundred, and the
cycle's last, are leap days. -/
def yearOfCycle (day : Nat) : Nat :=
  (day - day / 1460 + day / 36524 - day / 146096) / 365

/-- The days passed before a year of a cycle. -/
def daysBeforeYear (year : Nat) : Nat := 365 * year + year / 4 - year / 100

/-- The date of the day with this number. -/
def ofDayNumber (number : Int) : Date :=
  let shifted := number + daysBefore1970
  let cycle := shifted / daysOfCycle
  let day := (shifted % daysOfCycle).toNat
  let year := yearOfCycle day
  let dayOfYear := day - daysBeforeYear year
  -- five months in a row have 153 days, from March on
  let month := (5 * dayOfYear + 2) / 153
  let isNextYear := 10 ≤ month
  { year := cycle * 400 + year + (if isNextYear then 1 else 0)
    month := if isNextYear then month - 9 else month + 3
    day := dayOfYear - (153 * month + 2) / 5 + 1 }

/-- The date as it is shown, for years of four digits. -/
def text (d : Date) : String :=
  s!"{Text.withDigits 4 d.year.toNat}-{Text.withDigits 2 d.month}-{Text.withDigits 2 d.day}"

end Date

/-- The seconds of a day. -/
def secondsPerDay : Nat := 86400

/-- A time of day as it is shown, from the seconds since midnight. -/
def timeOfDayText (seconds : Nat) : String :=
  let digits := Text.withDigits 2
  s!"{digits (seconds / 3600)}:{digits (seconds / 60 % 60)}:{digits (seconds % 60)}"

/-- The seconds since midnight at so many seconds since 1970. -/
def secondsOfDay (seconds : Int) : Nat := (seconds % secondsPerDay).toNat

/-- Date and time as they are shown, from the seconds since 1970. -/
def dateTimeText (seconds : Int) : String :=
  (Date.ofDayNumber (seconds / secondsPerDay)).text ++ " " ++ timeOfDayText (secondsOfDay seconds)

end UpdatePipeline
