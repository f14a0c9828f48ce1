import ListingFilter.Fault
/-!
# Calendar

Days of the Gregorian calendar, counted from 1970-01-01, and moments in the years 1 to 9999. A year
is taken to begin in March, so that the leap day is the last day of the year; then the months that
came before a month, and the leap days that came before a year, follow from one division each.
-/

namespace ListingFilter.Calendar

/-- A day of the calendar. -/
structure Date where
  year : Int
  month : Int
  day : Int
  deriving DecidableEq, Repr

def isLeapYear (year : Int) : Bool :=
  year % 4 == 0 && (year % 100 != 0 || year % 400 == 0)

/-- The number of days of a month, for `1 ≤ month ≤ 12`. -/
def monthLength (year month : Int) : Int :=
  if month == 2 then (if isLeapYear year then 29 else 28)
  else if month == 4 || month == 6 || month == 9 || month == 11 then 30
  else 31

/-- The months of the year and the days of the month exist. -/
def Date.isValid (date : Date) : Bool :=
  1 ≤ date.month && date.month ≤ 12 && 1 ≤ date.day && date.day ≤ monthLength date.year date.month

/-- The days from 1970-01-01 to `date`. -/
def Date.number (date : Date) : Int :=
  let year := if date.month ≤ 2 then date.year - 1 else date.year
  let month := if date.month ≤ 2 then date.month + 9 else date.month - 3
  let dayOfYear := (153 * month + 2) / 5 + date.day - 1
  365 * year + year / 4 - year / 100 + year / 400 + dayOfYear - 719468

/-- The day `number` days after 1970-01-01. -/
def Date.ofNumber (number : Int) : Date :=
  let shifted := number + 719468
  let cycle := shifted / 146097
  let dayOfCycle := shifted % 146097
  let yearOfCycle :=
    (dayOfCycle - dayOfCycle / 1460 + dayOfCycle / 36524 - dayOfCycle / 146096) / 365
  let dayOfYear := dayOfCycle - (365 * yearOfCycle + yearOfCycle / 4 - yearOfCycle / 100)
  let month := (5 * dayOfYear + 2) / 153
  let day := dayOfYear - (153 * month + 2) / 5 + 1
  let year := yearOfCycle + 400 * cycle
  if month < 10 then ⟨year, month + 3, day⟩ else ⟨year + 1, month - 9, day⟩

def secondsPerDay : Int := 86400

/-- The first second that a moment may have: the calendar begins at 0001-01-01, and a moment on its
first day is not accepted. -/
def firstSecond : Int := (Date.number ⟨1, 1, 2⟩) * secondsPerDay

/-- The last second of 9999-12-31. -/
def lastSecond : Int := (Date.number ⟨10000, 1, 1⟩) * secondsPerDay - 1

/-- The seconds from 1970-01-01T00:00 to a moment of the calendar. -/
def timestamp (date : Date) (secondOfDay : Int) : Except Fault Int :=
  let seconds := date.number * secondsPerDay + secondOfDay
  if firstSecond ≤ seconds && seconds ≤ lastSecond then .ok seconds else .error .outsideCalendar

end ListingFilter.Calendar
