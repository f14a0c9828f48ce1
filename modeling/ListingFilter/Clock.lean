import ListingFilter.Calendar
/-!
# The clock, and shifts by months

A clock shows seconds since 1970-01-01T00:00, in whole numbers or in 64-bit fractions. A shift by
months keeps the time of day and the day of the month, or takes the last day of a shorter month.
-/

namespace ListingFilter

open Calendar

/-- What a clock shows. -/
inductive Clock
  | whole (seconds : Int)
  | real (seconds : Binary64)
  deriving DecidableEq, Repr

/-- A moment: whole seconds and the millionths of a second after them. -/
structure Moment where
  seconds : Int
  micros : Nat
  deriving DecidableEq, Repr

namespace Clock

/-- The whole seconds that the clock shows, without their fraction. -/
def truncated : Clock → Except Fault Int
  | .whole seconds => .ok seconds
  | .real .nan => .error .clockNotANumber
  | .real seconds =>
    match seconds.truncate? with
    | some seconds => .ok seconds
    | none => .error .momentOverflow

/-- The number of millionths in the fraction `n / d < 1`, a tie to the even one. The product is a
64-bit number before it is rounded. -/
def micros (n d : Nat) : Nat :=
  match Binary64.ofRatio false (n * 1000000) d with
  | .finite _ mantissa exponent =>
    let (n, d) := Binary64.ratio mantissa exponent
    Binary64.roundDiv n d
  | _ => 0

/-- The moment that the clock shows, before it is looked up in the calendar. -/
def split : Clock → Except Fault Moment
  | .whole seconds => .ok ⟨seconds, 0⟩
  | .real .nan => .error .clockNotANumber
  | .real (.infinite _) => .error .momentOverflow
  | .real (.finite negative mantissa exponent) =>
    let (n, d) := Binary64.ratio mantissa exponent
    let whole := n / d
    let part := micros (n % d) d
    let (whole, part) := if 1000000 ≤ part then (whole + 1, part - 1000000) else (whole, part)
    if negative then
      if part = 0 then .ok ⟨-(whole : Int), 0⟩ else .ok ⟨-(whole : Int) - 1, 1000000 - part⟩
    else .ok ⟨whole, part⟩

/-- The bounds of the seconds that a machine word holds. -/
def wordBound : Int := Int.pow 2 63

/-- The first and the last second whose year a machine integer holds. -/
def leastYearSecond : Int := -67768040609740800

def greatestYearSecond : Int := 67768036191676799

/-- The moment that the clock shows, in the calendar. -/
def moment (clock : Clock) : Except Fault Moment :=
  match clock.split with
  | .error fault => .error fault
  | .ok moment =>
    if moment.seconds < -wordBound || wordBound ≤ moment.seconds then .error .momentOverflow
    else if moment.seconds < leastYearSecond || greatestYearSecond < moment.seconds then
      .error .unrepresentableMoment
    else if moment.seconds < firstSecond || lastSecond < moment.seconds then
      .error .outsideCalendar
    else .ok moment

end Clock

/-- The bound of the years that a machine integer holds. -/
def yearBound : Int := Int.pow 2 31

/-- The whole seconds of a moment, read off the 64-bit number nearest to it. A moment without a
fraction is such a number. -/
def Moment.wholeSeconds (moment : Moment) : Int :=
  if moment.micros = 0 then moment.seconds
  else
    match Binary64.ofRatio false moment.micros 1000000 with
    | .finite _ mantissa exponent =>
      let (n, d) := Binary64.ratio mantissa exponent
      let sum : Int := moment.seconds * d + n
      ((Binary64.ofRatio (sum < 0) sum.natAbs d).truncate?).getD moment.seconds
    | _ => moment.seconds

/-- The seconds of the moment that lies `months` calendar months after the one that the clock
shows. -/
def addMonths (clock : Clock) (months : Int) : Except Fault Int :=
  match clock.moment with
  | .error fault => .error fault
  | .ok moment =>
    let date := Date.ofNumber (moment.seconds / secondsPerDay)
    let index := date.month - 1 + months
    let year := date.year + index / 12
    let month := index % 12 + 1
    if year < -yearBound || yearBound ≤ year then .error .momentOverflow
    else if year < 1 || 9999 < year then .error .outsideCalendar
    else
      let day := min date.day (monthLength year month)
      match timestamp ⟨year, month, day⟩ (moment.seconds % secondsPerDay) with
      | .error fault => .error fault
      | .ok seconds => .ok (Moment.wholeSeconds ⟨seconds, moment.micros⟩)

end ListingFilter
