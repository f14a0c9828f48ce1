import ListingFilter.Clock
import ListingFilter.Proofs.CalendarDays
/-!
# Shifts by calendar months

`Date.shift` counts months through the years and takes the last day of a shorter month. The main
result is `IsGregorian.addMonths_whole`: a shift of whole seconds moves the date in this way and
keeps the time of day. It keeps the order of two moments too, except where the end of a month brings
both of them to one day, and it is undone by the opposite shift of a day up to the 28th.
-/

namespace ListingFilter

namespace Calendar

/-- The date `months` calendar months later: its day of the month, or the last one of a shorter
month. -/
def Date.shift (months : Int) (date : Date) : Date :=
  let index := date.monthIndex + months
  ⟨index / 12, index % 12 + 1, min date.day (lengthOfMonth index)⟩

variable {date later : Date} {months : Int}

@[simp] theorem Date.monthIndex_shift :
    (date.shift months).monthIndex = date.monthIndex + months := by
  simp only [monthIndex, shift]
  omega

@[simp] theorem Date.day_shift :
    (date.shift months).day = min date.day (lengthOfMonth (date.monthIndex + months)) := rfl

theorem le_lengthOfMonth (index : Int) : 28 ≤ lengthOfMonth index := le_monthLength _ _

theorem Date.isValid_shift (h : date.isValid = true) : (date.shift months).isValid = true := by
  have hday := (isValid_iff.1 h).2.1
  have hlength := le_lengthOfMonth (date.monthIndex + months)
  rw [isValid_iff]
  refine ⟨?_, ?_, min_le_right _ _⟩
  · simp only [shift]
    omega
  · rw [day_shift]
    omega

theorem Date.shift_neg_shift (h : date.isValid = true) (hday : date.day ≤ 28) :
    (date.shift months).shift (-months) = date := by
  have hmonth := (isValid_iff.1 h).1
  have hfirst := firstOfMonth_monthIndex hmonth
  have hthere := le_lengthOfMonth (date.monthIndex + months)
  have hback := le_lengthOfMonth date.monthIndex
  simp only [firstOfMonth, Date.mk.injEq, and_true] at hfirst
  rw [shift]
  simp only [monthIndex_shift, day_shift, add_neg_cancel_right, hfirst.1, hfirst.2]
  rw [min_eq_left (by omega : date.day ≤ _), min_eq_left (by omega)]

/-- The months of the year and the shift are enough to find the years between. -/
theorem Date.shift_eq : date.shift months =
    ⟨date.year + (date.month - 1 + months) / 12, (date.month - 1 + months) % 12 + 1,
      min date.day (monthLength (date.year + (date.month - 1 + months) / 12)
        ((date.month - 1 + months) % 12 + 1))⟩ := by
  have hyear : (date.monthIndex + months) / 12 =
      date.year + (date.month - 1 + months) / 12 := by
    simp only [monthIndex]
    omega
  have hmonth : (date.monthIndex + months) % 12 = (date.month - 1 + months) % 12 := by
    simp only [monthIndex]
    omega
  simp only [shift, lengthOfMonth, hyear, hmonth]

/-! ### The order of the months -/

theorem number_firstOfMonth_le {index later : Int} (h : index ≤ later) :
    (firstOfMonth index).number ≤ (firstOfMonth later).number := by
  have hmono : Monotone fun index => (firstOfMonth index).number := by
    apply monotone_int_of_le_succ
    intro index
    have hlength := le_lengthOfMonth index
    rw [number_firstOfMonth_succ]
    omega
  exact hmono h

theorem Date.number_lt_of_monthIndex_lt (h : date.isValid = true) (hlater : later.isValid = true)
    (hmonths : date.monthIndex < later.monthIndex) : date.number < later.number := by
  obtain ⟨hmonth, -, hday⟩ := isValid_iff.1 h
  obtain ⟨hmonth', hday', -⟩ := isValid_iff.1 hlater
  rw [← lengthOfMonth_monthIndex hmonth] at hday
  calc date.number
    _ < (firstOfMonth (date.monthIndex + 1)).number := by
      rw [number_eq hmonth, number_firstOfMonth_succ]
      omega
    _ ≤ (firstOfMonth later.monthIndex).number :=
      number_firstOfMonth_le (by omega)
    _ ≤ later.number := by
      rw [number_eq hmonth']
      omega

/-- In one month the days alone are compared. -/
theorem Date.number_sub_of_monthIndex_eq (h : date.isValid = true) (hlater : later.isValid = true)
    (hmonths : date.monthIndex = later.monthIndex) :
    later.number - date.number = later.day - date.day := by
  rw [number_eq (isValid_iff.1 h).1, number_eq (isValid_iff.1 hlater).1, hmonths]
  ring

theorem Date.year_bounds (h : date.isValid = true) (hfirst : number ⟨1, 1, 2⟩ ≤ date.number)
    (hlast : date.number < number ⟨10000, 1, 1⟩) : 1 ≤ date.year ∧ date.year ≤ 9999 := by
  have hmonth := (isValid_iff.1 h).1
  constructor
  · by_contra! hearly
    have hless : date.number < number ⟨1, 1, 2⟩ := number_lt_of_monthIndex_lt h (by decide)
      (by simp only [monthIndex]; omega)
    omega
  · by_contra! hlate
    have hless := number_firstOfMonth_le
      (show monthIndex ⟨10000, 1, 1⟩ ≤ date.monthIndex by simp only [monthIndex]; omega)
    have hday := (isValid_iff.1 h).2.1
    have hstart := number_eq hmonth
    rw [firstOfMonth_monthIndex (by decide)] at hless
    dsimp only at hless
    omega

theorem Date.monthIndex_le_of_number_le (h : date.isValid = true) (hlater : later.isValid = true)
    (hnumber : date.number ≤ later.number) : date.monthIndex ≤ later.monthIndex := by
  by_contra! hmonths
  have hless := number_lt_of_monthIndex_lt hlater h hmonths
  omega

/-- Two seconds of two days keep their order when the days are shifted, unless both of them come to
the last day of one month and the later day has the earlier second. -/
theorem Date.seconds_shift_le_iff {second second' : Int} (h : date.isValid = true)
    (hlater : later.isValid = true) (hsecond : 0 ≤ second ∧ second < secondsPerDay)
    (hsecond' : 0 ≤ second' ∧ second' < secondsPerDay)
    (hle : date.number * secondsPerDay + second ≤ later.number * secondsPerDay + second') :
    (date.shift months).number * secondsPerDay + second ≤
        (later.shift months).number * secondsPerDay + second' ↔
      ¬ (date.monthIndex = later.monthIndex ∧
        lengthOfMonth (date.monthIndex + months) ≤ date.day ∧ second' < second) := by
  have hshift : (date.shift months).isValid = true := isValid_shift h
  have hshift' : (later.shift months).isValid = true := isValid_shift hlater
  simp only [secondsPerDay] at *
  rcases (monthIndex_le_of_number_le h hlater (by omega)).lt_or_eq with hmonths | hmonths
  · -- In different months the days keep their order, whatever the seconds are.
    have hless := number_lt_of_monthIndex_lt hshift hshift' (by simpa using hmonths)
    exact ⟨fun _ hmet => hmonths.ne hmet.1, fun _ => by omega⟩
  · have hdays := number_sub_of_monthIndex_eq h hlater hmonths
    have hdays' := number_sub_of_monthIndex_eq hshift hshift' (by simpa using hmonths)
    rw [day_shift, day_shift, ← hmonths] at hdays'
    omega

/-! ### Moments -/

/-- A second between the first and the last one that a moment may have. -/
def IsInRange (seconds : Int) : Prop := firstSecond ≤ seconds ∧ seconds ≤ lastSecond

variable {t t' r r' : Int}

theorem timestamp_eq_ok_iff {second : Int} :
    timestamp date second = .ok r ↔
      IsInRange r ∧ r = date.number * secondsPerDay + second := by
  simp only [timestamp]
  split_ifs with hrange
  · simp only [Bool.and_eq_true, decide_eq_true_eq] at hrange
    constructor
    · rintro ⟨⟩
      exact ⟨hrange, rfl⟩
    · rintro ⟨-, rfl⟩
      rfl
  · simp only [Bool.and_eq_true, decide_eq_true_eq] at hrange
    constructor
    · rintro ⟨⟩
    · rintro ⟨hrange', rfl⟩
      exact absurd hrange' hrange

/-- The date and the time of day of a second. -/
theorem eq_seconds_iff {second : Int} (h : date.isValid = true)
    (hsecond : 0 ≤ second ∧ second < secondsPerDay) :
    t = date.number * secondsPerDay + second ↔
      Date.ofNumber (t / secondsPerDay) = date ∧ t % secondsPerDay = second := by
  have hnumber : Date.ofNumber (t / secondsPerDay) = date ↔ t / secondsPerDay = date.number := by
    constructor
    · rintro rfl
      rw [Date.number_ofNumber]
    · intro hdays
      rw [hdays, Date.ofNumber_number h]
  rw [hnumber]
  simp only [secondsPerDay] at *
  omega

theorem time_bounds (t : Int) : 0 ≤ t % secondsPerDay ∧ t % secondsPerDay < secondsPerDay :=
  ⟨Int.emod_nonneg t (by decide), Int.emod_lt_of_pos t (by decide)⟩

theorem firstSecond_eq : firstSecond = -719161 * 86400 := by decide

theorem lastSecond_eq : lastSecond = 2932897 * 86400 - 1 := by decide

/-- The whole seconds that are a moment of the calendar. -/
theorem moment_whole_eq_ok_iff {moment : Moment} :
    (Clock.whole t).moment = .ok moment ↔ IsInRange t ∧ moment = ⟨t, 0⟩ := by
  have hword : Clock.wordBound = 9223372036854775808 := rfl
  have hleast : Clock.leastYearSecond = -67768040609740800 := rfl
  have hgreatest : Clock.greatestYearSecond = 67768036191676799 := rfl
  have hsplit : (Clock.whole t).split = .ok ⟨t, 0⟩ := rfl
  simp only [Clock.moment, hsplit, IsInRange, Bool.or_eq_true, decide_eq_true_eq, hword, hleast,
    hgreatest, firstSecond_eq, lastSecond_eq]
  split_ifs
  iterate 3
    exact ⟨fun h => (by cases h), fun h => by omega⟩
  have hrange : -719161 * 86400 ≤ t ∧ t ≤ 2932897 * 86400 - 1 := by omega
  exact ⟨fun h => ⟨hrange, (Except.ok.inj h).symm⟩, fun h => by rw [h.2]⟩

theorem IsInRange.year_bounds (h : IsInRange (date.number * secondsPerDay + t % secondsPerDay))
    (hvalid : date.isValid = true) : 1 ≤ date.year ∧ date.year ≤ 9999 := by
  have hfirst : Date.number ⟨1, 1, 2⟩ = -719161 := by decide
  have hlast : Date.number ⟨10000, 1, 1⟩ = 2932897 := by decide
  simp only [IsInRange, firstSecond_eq, lastSecond_eq, secondsPerDay] at h
  exact Date.year_bounds hvalid (by omega) (by omega)

end Calendar

open Calendar

variable {t t' r r' months : Int} {day : Int → Date}

/-- Whole seconds are shifted where they and the seconds after the shift are in the calendar. -/
theorem addMonths_whole_eq_ok_iff : addMonths (.whole t) months = .ok r ↔
    IsInRange t ∧ IsInRange r ∧
      r = ((Date.ofNumber (t / secondsPerDay)).shift months).number * secondsPerDay +
        t % secondsPerDay := by
  have hvalid : ((Date.ofNumber (t / secondsPerDay)).shift months).isValid = true :=
    Date.isValid_shift (Date.isValid_ofNumber _)
  constructor
  · intro h
    rw [addMonths] at h
    split at h
    · cases h
    · rename_i moment hmoment
      obtain ⟨hrange, rfl⟩ := moment_whole_eq_ok_iff.1 hmoment
      dsimp only at h
      split_ifs at h
      split at h
      · cases h
      · rename_i seconds hseconds
        obtain rfl : seconds = r := Except.ok.inj h
        rw [← Date.shift_eq, timestamp_eq_ok_iff] at hseconds
        exact ⟨hrange, hseconds⟩
  · rintro ⟨hrange, hresult, hr⟩
    obtain ⟨hfirst, hlast⟩ := IsInRange.year_bounds (hr ▸ hresult) hvalid
    have hbound : yearBound = 2 ^ 31 := rfl
    rw [addMonths, moment_whole_eq_ok_iff.2 ⟨hrange, rfl⟩]
    dsimp only
    rw [Date.shift_eq] at hfirst hlast
    dsimp only at hfirst hlast
    rw [if_neg (by simp; omega), if_neg (by simp; omega), ← Date.shift_eq,
      timestamp_eq_ok_iff.2 ⟨hresult, hr⟩]
    rfl

/-- Two moments of one month that come to its last day, the later of them at an earlier time of
day. -/
structure IsOvertaken (day : Int → Date) (months t t' : Int) : Prop where
  month : (day (t / secondsPerDay)).monthIndex = (day (t' / secondsPerDay)).monthIndex
  last : lengthOfMonth ((day (t / secondsPerDay)).monthIndex + months) ≤
    (day (t / secondsPerDay)).day
  time : t' % secondsPerDay < t % secondsPerDay

/-- The order of two moments is kept by a shift, unless the earlier one is overtaken. -/
theorem addMonths_whole_le_iff (h : t ≤ t') (hr : addMonths (.whole t) months = .ok r)
    (hr' : addMonths (.whole t') months = .ok r') :
    r ≤ r' ↔ ¬ IsOvertaken Date.ofNumber months t t' := by
  obtain ⟨-, -, rfl⟩ := addMonths_whole_eq_ok_iff.1 hr
  obtain ⟨-, -, rfl⟩ := addMonths_whole_eq_ok_iff.1 hr'
  have hvalid := Date.isValid_ofNumber (t / secondsPerDay)
  have hvalid' := Date.isValid_ofNumber (t' / secondsPerDay)
  have ht := (eq_seconds_iff hvalid (time_bounds t)).2 ⟨rfl, rfl⟩
  have ht' := (eq_seconds_iff hvalid' (time_bounds t')).2 ⟨rfl, rfl⟩
  rw [Date.seconds_shift_le_iff hvalid hvalid' (time_bounds t) (time_bounds t')
    (by rwa [← ht, ← ht'])]
  exact not_congr ⟨fun ⟨hmonth, hlast, htime⟩ => ⟨hmonth, hlast, htime⟩,
    fun ⟨hmonth, hlast, htime⟩ => ⟨hmonth, hlast, htime⟩⟩

/-- A shift of a day up to the 28th is undone by the opposite one. -/
theorem addMonths_whole_neg (hday : (Date.ofNumber (t / secondsPerDay)).day ≤ 28)
    (hr : addMonths (.whole t) months = .ok r) : addMonths (.whole r) (-months) = .ok t := by
  have hvalid := Date.isValid_ofNumber (t / secondsPerDay)
  obtain ⟨ht, hresult, hseconds⟩ := addMonths_whole_eq_ok_iff.1 hr
  obtain ⟨hdate, htime⟩ := (eq_seconds_iff (Date.isValid_shift hvalid) (time_bounds t)).1 hseconds
  refine addMonths_whole_eq_ok_iff.2 ⟨hresult, ht, ?_⟩
  rw [hdate, htime, Date.shift_neg_shift hvalid hday]
  exact (eq_seconds_iff hvalid (time_bounds t)).2 ⟨rfl, rfl⟩

/-- A shift of whole seconds, in the Gregorian calendar: the date is shifted and the time of day is
kept, where both moments are in range. The order of two moments is kept unless the earlier one is
overtaken, and the shift of a day up to the 28th is undone by the opposite one. -/
theorem Calendar.IsGregorian.addMonths_whole (h : IsGregorian day) (t months r : Int) :
    (addMonths (.whole t) months = .ok r ↔ IsInRange t ∧ IsInRange r ∧
      day (r / secondsPerDay) = (day (t / secondsPerDay)).shift months ∧
      r % secondsPerDay = t % secondsPerDay) ∧
    (∀ t' r', t ≤ t' → addMonths (.whole t) months = .ok r →
      addMonths (.whole t') months = .ok r' → (r ≤ r' ↔ ¬ IsOvertaken day months t t')) ∧
    ((day (t / secondsPerDay)).day ≤ 28 → addMonths (.whole t) months = .ok r →
      addMonths (.whole r) (-months) = .ok t) := by
  rw [h.eq_ofNumber]
  refine ⟨?_, fun _ _ => addMonths_whole_le_iff, addMonths_whole_neg⟩
  rw [addMonths_whole_eq_ok_iff,
    eq_seconds_iff (Date.isValid_shift (Date.isValid_ofNumber _)) (time_bounds t)]

/-- A month from 23:00 on the 30th and from 01:00 on the 31st of January 2023, and from the first of
them back again by way of the 28th of December. -/
theorem addMonths_whole_january : IsGregorian Date.ofNumber ∧
    addMonths (.whole 1675119600) 1 = .ok 1677625200 ∧
    addMonths (.whole 1675126800) 1 = .ok 1677546000 ∧
    ¬ (1677625200 : Int) ≤ 1677546000 ∧
    addMonths (.whole 1677546000) (-2) = .ok 1672189200 ∧
    addMonths (.whole 1672189200) (-(-2)) = .ok 1677546000 := by
  have h := isGregorian_ofNumber
  have hfirst := (h.addMonths_whole 1675119600 1 1677625200).1.2
    ⟨⟨by decide, by decide⟩, ⟨by decide, by decide⟩, by decide, by decide⟩
  have hsecond := (h.addMonths_whole 1675126800 1 1677546000).1.2
    ⟨⟨by decide, by decide⟩, ⟨by decide, by decide⟩, by decide, by decide⟩
  have hback := (h.addMonths_whole 1677546000 (-2) 1672189200).1.2
    ⟨⟨by decide, by decide⟩, ⟨by decide, by decide⟩, by decide, by decide⟩
  exact ⟨h, hfirst, hsecond,
    fun hle => ((h.addMonths_whole 1675119600 1 1677625200).2.1 _ _ (by decide) hfirst hsecond).1
      hle ⟨by decide, by decide, by decide⟩,
    hback, (h.addMonths_whole 1677546000 (-2) 1672189200).2.2 (by decide) hback⟩

/-- A month after the later of two moments may come before a month after the earlier one. -/
theorem addMonths_whole_not_monotone :
    (1675119600 : Int) ≤ 1675126800 ∧ addMonths (.whole 1675119600) 1 = .ok 1677625200 ∧
      addMonths (.whole 1675126800) 1 = .ok 1677546000 ∧ ¬ (1677625200 : Int) ≤ 1677546000 :=
  ⟨by decide, rfl, rfl, by decide⟩

end ListingFilter
