import Mathlib.Tactic.IntervalCases
import Mathlib.Tactic.Ring
import ListingFilter.Proofs.CalendarBounds
/-!
# The days of the Gregorian calendar

`IsGregorian day` says which numbering of the days is the Gregorian calendar, by the day after a day
alone: the leap years and the lengths of the months are all it reads. `isGregorian_ofNumber` shows
that `Date.ofNumber` is such a numbering, and `IsGregorian.eq_ofNumber` that there is no other one.

`Date.ofNumber` divides by the days of a year that begins in March, so a date is first written in
such years (`ofMarch`), and the year by its place in a cycle of 400 years.
-/

namespace ListingFilter.Calendar

/-- The day after `date`. -/
def Date.next (date : Date) : Date :=
  if date.day < monthLength date.year date.month then { date with day := date.day + 1 }
  else if date.month < 12 then ⟨date.year, date.month + 1, 1⟩
  else ⟨date.year + 1, 1, 1⟩

/-- `day n` is the date `n` days after 1970-01-01, by rules that hold for all years. -/
structure IsGregorian (day : Int → Date) : Prop where
  epoch : day 0 = ⟨1970, 1, 1⟩
  next : ∀ n, day (n + 1) = (day n).next
  valid : ∀ n, (day n).isValid = true

theorem Date.isValid_iff {date : Date} :
    date.isValid = true ↔ (1 ≤ date.month ∧ date.month ≤ 12) ∧ 1 ≤ date.day ∧
      date.day ≤ monthLength date.year date.month := by
  simp [isValid, and_assoc]

theorem isLeapYear_iff {year : Int} :
    isLeapYear year = true ↔ year % 4 = 0 ∧ (year % 100 ≠ 0 ∨ year % 400 = 0) := by
  simp [isLeapYear]

theorem le_monthLength (year month : Int) : 28 ≤ monthLength year month := by
  simp only [monthLength]
  split_ifs <;> decide

theorem Date.isValid_next {date : Date} (h : date.isValid = true) : date.next.isValid = true := by
  have hvalid := Date.isValid_iff.1 h
  have hsecond := le_monthLength date.year (date.month + 1)
  have hfirst := le_monthLength (date.year + 1) 1
  rw [Date.isValid_iff, Date.next]
  split_ifs with hday hmonth <;> dsimp only <;> omega

/-! ### Months in a row -/

/-- The months of the calendar, counted from the first one of the year 0. -/
def Date.monthIndex (date : Date) : Int := 12 * date.year + (date.month - 1)

/-- The first day of the month at an index. -/
def firstOfMonth (index : Int) : Date := ⟨index / 12, index % 12 + 1, 1⟩

/-- The number of days of the month at an index. -/
def lengthOfMonth (index : Int) : Int := monthLength (index / 12) (index % 12 + 1)

theorem firstOfMonth_monthIndex {date : Date} (h : 1 ≤ date.month ∧ date.month ≤ 12) :
    firstOfMonth date.monthIndex = ⟨date.year, date.month, 1⟩ := by
  simp only [firstOfMonth, Date.monthIndex, Date.mk.injEq, and_true]
  omega

theorem lengthOfMonth_monthIndex {date : Date} (h : 1 ≤ date.month ∧ date.month ≤ 12) :
    lengthOfMonth date.monthIndex = monthLength date.year date.month := by
  have hfirst := firstOfMonth_monthIndex h
  simp only [firstOfMonth, Date.mk.injEq] at hfirst
  rw [lengthOfMonth, hfirst.1, hfirst.2.1]

/-- A month begins when the one before it is over. -/
theorem number_firstOfMonth_succ (index : Int) :
    (firstOfMonth (index + 1)).number = (firstOfMonth index).number + lengthOfMonth index := by
  obtain ⟨year, month, rfl, hlow, hhigh⟩ : ∃ year month : Int, index = 12 * year + month ∧
      0 ≤ month ∧ month < 12 := ⟨index / 12, index % 12, by omega, by omega, by omega⟩
  have hyear : (12 * year + month) / 12 = year := by omega
  have hmonth : (12 * year + month) % 12 = month := by omega
  have hnextYear : (12 * year + month + 1) / 12 = if month = 11 then year + 1 else year := by
    split_ifs <;> omega
  have hnextMonth : (12 * year + month + 1) % 12 = if month = 11 then 0 else month + 1 := by
    split_ifs <;> omega
  simp only [firstOfMonth, lengthOfMonth, hyear, hmonth, hnextYear, hnextMonth, monthLength,
    Date.number, isLeapYear_iff, beq_iff_eq]
  interval_cases month <;> simp <;> omega

/-- The days of a month follow on its first one. -/
theorem Date.number_eq {date : Date} (h : 1 ≤ date.month ∧ date.month ≤ 12) :
    date.number = (firstOfMonth date.monthIndex).number + (date.day - 1) := by
  rw [firstOfMonth_monthIndex h]
  simp only [number]
  omega

theorem Date.number_next {date : Date} (h : date.isValid = true) :
    date.next.number = date.number + 1 := by
  obtain ⟨hmonth, hday⟩ := Date.isValid_iff.1 h
  rw [Date.number_eq hmonth, Date.next]
  split_ifs with hwithin hyear
  · rw [Date.number_eq (by exact hmonth)]
    simp only [Date.monthIndex]
    omega
  -- The last day of a month: the next one is the first of the month at the next index.
  all_goals
    have hstart := number_firstOfMonth_succ date.monthIndex
    rw [lengthOfMonth_monthIndex hmonth] at hstart
    rw [Date.number_eq (by dsimp only; omega)]
    simp only [Date.monthIndex] at hstart ⊢
  · have hindex : 12 * date.year + (date.month + 1 - 1) =
        12 * date.year + (date.month - 1) + 1 := by ring
    rw [hindex]
    omega
  · have hindex : 12 * (date.year + 1) + (1 - 1) = 12 * date.year + (date.month - 1) + 1 := by
      omega
    rw [hindex]
    omega

/-! ### Years that begin in March -/

/-- The date of a day in a month counted from March, of a year that begins with that month. -/
def Date.ofMarch (year month day : Int) : Date :=
  if month < 10 then ⟨year, month + 3, day⟩ else ⟨year + 1, month - 9, day⟩

/-- The days of a year that begins in March before one of its months. -/
def daysBefore (month : Int) : Int := (153 * month + 2) / 5

/-- A valid date, written in years that begin in March: the days of the month come before the next
month, and the last day of the year is there in a leap year alone. -/
theorem Date.exists_ofMarch {date : Date} (h : date.isValid = true) :
    ∃ year month : Int, date = ofMarch year month date.day ∧ (0 ≤ month ∧ month ≤ 11) ∧
      (1 ≤ date.day ∧ daysBefore month + date.day ≤ daysBefore (month + 1)) ∧
      daysBefore month + date.day ≤ 366 ∧
      (daysBefore month + date.day = 366 → isLeapYear (year + 1) = true) := by
  obtain ⟨year, month, day⟩ := date
  obtain ⟨⟨hlow, hhigh⟩, hday, hlength⟩ := Date.isValid_iff.1 h
  dsimp only at hlow hhigh hday hlength ⊢
  by_cases hlast : month ≤ 2
  · refine ⟨year - 1, month + 9, ?_, by omega, ?_⟩
    · rw [ofMarch, if_neg (by omega), sub_add_cancel, add_sub_cancel_right]
    · obtain rfl | rfl : month = 1 ∨ month = 2 := by omega
      · have hfits : day ≤ 31 := hlength
        simp only [daysBefore]
        omega
      · simp only [monthLength, beq_self_eq_true, if_true] at hlength
        simp only [daysBefore, sub_add_cancel]
        refine ⟨⟨hday, by split_ifs at hlength <;> omega⟩, by split_ifs at hlength <;> omega, ?_⟩
        intro hfull
        split_ifs at hlength with hleap
        · exact hleap
        · omega
  · refine ⟨year, month - 3, ?_, by omega, ?_⟩
    · rw [ofMarch, if_pos (by omega), sub_add_cancel]
    · have hthird : 3 ≤ month := by omega
      simp only [monthLength, daysBefore] at hlength ⊢
      interval_cases month <;> simp at hlength <;> omega

theorem number_ofMarch {year month day : Int} (h : 0 ≤ month ∧ month ≤ 11) :
    (Date.ofMarch year month day).number =
      365 * year + year / 4 - year / 100 + year / 400 + (daysBefore month + day - 1) - 719468 := by
  rw [Date.ofMarch]
  split_ifs with hmonth
  · have hlater : ¬ month + 3 ≤ 2 := by omega
    simp only [Date.number, daysBefore, if_neg hlater, add_sub_cancel_right]
  · have hearlier : month - 9 ≤ 2 := by omega
    simp only [Date.number, daysBefore, if_pos hearlier, add_sub_cancel_right, sub_add_cancel]

/-! ### Days in a cycle of 400 years

The variables are the place of a year in its cycle: the century, the four years of it, and the year
in those. -/

section Cycle

variable {cycle century quad rest dayOfYear : Int}

theorem exists_cycle (year : Int) : ∃ cycle century quad rest : Int,
    year = 400 * cycle + (100 * century + 4 * quad + rest) ∧ (0 ≤ century ∧ century < 4) ∧
      (0 ≤ quad ∧ quad < 25) ∧ 0 ≤ rest ∧ rest < 4 :=
  ⟨year / 400, year % 400 / 100, year % 100 / 4, year % 4, by omega, by omega, by omega, by omega,
    by omega⟩

theorem leapDays_of_cycle (century : Int) (hquad : 0 ≤ quad ∧ quad < 25)
    (hrest : 0 ≤ rest ∧ rest < 4) :
    (100 * century + 4 * quad + rest) / 4 = 25 * century + quad ∧
      (100 * century + 4 * quad + rest) / 100 = century := by
  omega

/-- The years of a cycle before one of its days. -/
theorem yearOfCycle {day : Int} (hcentury : 0 ≤ century ∧ century < 4)
    (hquad : 0 ≤ quad ∧ quad < 25) (hrest : 0 ≤ rest ∧ rest < 4)
    (hday : 0 ≤ dayOfYear ∧ dayOfYear ≤ 365)
    (hleap : dayOfYear = 365 → rest = 3 ∧ (quad < 24 ∨ century = 3))
    (hdays : day = 36524 * century + 1461 * quad + 365 * rest + dayOfYear) :
    (day - day / 1460 + day / 36524 - day / 146096) / 365 = 100 * century + 4 * quad + rest := by
  have hcenturies : day / 36524 - day / 146096 = century := by
    obtain ⟨hlow, hhigh⟩ := hcentury
    interval_cases century <;> omega
  have hquads : day / 1460 =
      25 * century + quad + (24 * century + quad + 365 * rest + dayOfYear) / 1460 := by omega
  have hwithin : 0 ≤ dayOfYear - (24 * century + quad + 365 * rest + dayOfYear) / 1460 ∧
      dayOfYear - (24 * century + quad + 365 * rest + dayOfYear) / 1460 < 365 := by
    by_cases hlast : rest = 3
    · subst hlast
      omega
    · omega
  omega

theorem monthOfYear {month day : Int} (hmonth : 0 ≤ month ∧ month ≤ 11) (hday : 1 ≤ day)
    (hfits : daysBefore month + day ≤ daysBefore (month + 1)) :
    (5 * (daysBefore month + day - 1) + 2) / 153 = month := by
  simp only [daysBefore] at hfits ⊢
  obtain ⟨hlow, hhigh⟩ := hmonth
  interval_cases month <;> omega

/-- The day at a place of a cycle. -/
theorem ofNumber_of_cycle {month day : Int} (hcentury : 0 ≤ century ∧ century < 4)
    (hquad : 0 ≤ quad ∧ quad < 25) (hrest : 0 ≤ rest ∧ rest < 4)
    (hmonth : 0 ≤ month ∧ month ≤ 11)
    (hday : 1 ≤ day ∧ daysBefore month + day ≤ daysBefore (month + 1))
    (hdayOfYear : dayOfYear = daysBefore month + day - 1) (hlast : dayOfYear ≤ 365)
    (hleap : dayOfYear = 365 → rest = 3 ∧ (quad < 24 ∨ century = 3)) :
    Date.ofNumber
        (146097 * cycle + (36524 * century + 1461 * quad + 365 * rest + dayOfYear) - 719468) =
      Date.ofMarch (400 * cycle + (100 * century + 4 * quad + rest)) month day := by
  have hofMonth := monthOfYear hmonth hday.1 hday.2
  rw [← hdayOfYear] at hofMonth
  have hdays : 0 ≤ dayOfYear ∧ dayOfYear ≤ 365 := by
    simp only [daysBefore] at hdayOfYear
    omega
  have hofCycle := yearOfCycle hcentury hquad hrest hdays hleap rfl
  obtain ⟨hquads, hcenturies⟩ := leapDays_of_cycle century hquad hrest
  have hbound : 0 ≤ 36524 * century + 1461 * quad + 365 * rest + dayOfYear ∧
      36524 * century + 1461 * quad + 365 * rest + dayOfYear < 146097 := by
    clear hofMonth hofCycle hquads hcenturies hday hdayOfYear
    omega
  generalize hcycleDay : 36524 * century + 1461 * quad + 365 * rest + dayOfYear = cycleDay at *
  have hcycle : (146097 * cycle + cycleDay) / 146097 = cycle := by
    clear hofCycle
    omega
  have hdayOfCycle : (146097 * cycle + cycleDay) % 146097 = cycleDay := by
    clear hofCycle
    omega
  have hremains : cycleDay -
      (365 * (100 * century + 4 * quad + rest) + (25 * century + quad) - century) = dayOfYear := by
    rw [← hcycleDay]
    ring
  have hofDay : dayOfYear - (153 * month + 2) / 5 + 1 = day := by
    rw [hdayOfYear, daysBefore]
    ring
  simp only [Date.ofNumber, sub_add_cancel, hcycle, hdayOfCycle, hofCycle, hquads, hcenturies,
    hremains, hofMonth, hofDay]
  rw [Date.ofMarch, add_comm (400 * cycle)]

end Cycle

/-! ### The numbering of the days -/

theorem Date.ofNumber_number {date : Date} (h : date.isValid = true) :
    Date.ofNumber date.number = date := by
  obtain ⟨year, month, hdate, hmonth, hday, hlast, hleap⟩ := date.exists_ofMarch h
  obtain ⟨cycle, century, quad, rest, rfl, hcentury, hquad, hrest⟩ := exists_cycle year
  have hyears : (400 * cycle + (100 * century + 4 * quad + rest)) / 4 =
        100 * cycle + 25 * century + quad ∧
      (400 * cycle + (100 * century + 4 * quad + rest)) / 100 = 4 * cycle + century ∧
      (400 * cycle + (100 * century + 4 * quad + rest)) / 400 = cycle := by
    clear hday hlast hleap hdate
    omega
  have hlastDay : daysBefore month + date.day - 1 = 365 → rest = 3 ∧ (quad < 24 ∨ century = 3) := by
    intro hfull
    have := isLeapYear_iff.1 (hleap (by omega))
    clear hday hlast hleap hdate hyears
    omega
  conv_rhs =>
    rw [hdate, ← ofNumber_of_cycle hcentury hquad hrest hmonth hday rfl (by omega) hlastDay]
  conv_lhs => rw [hdate, number_ofMarch hmonth, hyears.1, hyears.2.1, hyears.2.2]
  congr 1
  ring

/-- After a valid date comes a valid one, as often as is wanted. -/
theorem Date.exists_number_add {start : Date} (h : start.isValid = true) (k : Nat) :
    ∃ date : Date, date.isValid = true ∧ date.number = start.number + k := by
  induction k with
  | zero => exact ⟨start, h, by simp⟩
  | succ k ih =>
    obtain ⟨date, hdate, hnumber⟩ := ih
    refine ⟨date.next, isValid_next hdate, ?_⟩
    rw [number_next hdate, hnumber]
    push_cast
    ring

theorem number_firstOfCycle (cycle : Int) :
    (⟨400 * cycle, 3, 1⟩ : Date).number = 146097 * cycle - 719468 := by
  have hlater : ¬ (3 : Int) ≤ 2 := by decide
  simp only [Date.number, if_neg hlater]
  omega

theorem Date.exists_number (n : Int) : ∃ date : Date, date.isValid = true ∧ date.number = n := by
  -- The day is in some cycle, so it comes after the first day of that one.
  obtain ⟨cycle, k, hn⟩ : ∃ (cycle : Int) (k : Nat), n = 146097 * cycle - 719468 + k :=
    ⟨(n + 719468) / 146097, ((n + 719468) % 146097).toNat, by omega⟩
  have hfirst : (⟨400 * cycle, 3, 1⟩ : Date).isValid = true :=
    isValid_iff.2 (by simp [monthLength])
  obtain ⟨date, hdate, hnumber⟩ := exists_number_add hfirst k
  exact ⟨date, hdate, by rw [hnumber, number_firstOfCycle, hn]⟩

theorem Date.number_ofNumber (n : Int) : (Date.ofNumber n).number = n := by
  obtain ⟨date, hdate, rfl⟩ := exists_number n
  rw [ofNumber_number hdate]

theorem Date.isValid_ofNumber (n : Int) : (Date.ofNumber n).isValid = true := by
  obtain ⟨date, hdate, rfl⟩ := exists_number n
  rwa [ofNumber_number hdate]

theorem isGregorian_ofNumber : IsGregorian Date.ofNumber where
  epoch := by decide
  next n := by
    obtain ⟨date, hdate, rfl⟩ := Date.exists_number n
    rw [← Date.number_next hdate, Date.ofNumber_number (Date.isValid_next hdate),
      Date.ofNumber_number hdate]
  valid := Date.isValid_ofNumber

namespace IsGregorian

variable {day : Int → Date}

theorem number_day (h : IsGregorian day) (n : Int) : (day n).number = n := by
  induction n using Int.induction_on with
  | zero => rw [h.epoch]; decide
  | succ k ih => rw [h.next, Date.number_next (h.valid _), ih]
  | pred k ih =>
    have hstep := Date.number_next (h.valid (-(k : Int) - 1))
    rw [← h.next, sub_add_cancel, ih] at hstep
    omega

/-- There is one Gregorian calendar. -/
theorem eq_ofNumber (h : IsGregorian day) : day = Date.ofNumber := by
  funext n
  rw [← Date.ofNumber_number (h.valid n), h.number_day]

end IsGregorian

end ListingFilter.Calendar
