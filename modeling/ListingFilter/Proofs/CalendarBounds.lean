import Mathlib.Tactic.NormNum
import ListingFilter.Keyword.Typing
import ListingFilter.Proofs.Failures
/-!
# Dates within the calendar

Every date that can be written lies in the years 1 to 9999, so its moment is in the calendar unless
it is on the first day, which is not accepted.
-/

namespace ListingFilter

open Text (digitValue? isDigit)

/-! ### Digits -/

theorem Text.digitValue?_le {c : Char} {n : Nat} (h : digitValue? c = some n) : n ≤ 9 := by
  obtain ⟨first, hfirst, rfl⟩ := Option.map_eq_some_iff.1 h
  have hrange := List.find?_some hfirst
  simp only [Bool.and_eq_true, decide_eq_true_eq] at hrange
  omega

namespace Numeral

theorem value_lt (ds : List Char) : value ds < 10 ^ ds.length := by
  have hstep : ∀ ds : List Char, ∀ n,
      ds.foldl (fun n c => 10 * n + (digitValue? c).getD 0) n < (n + 1) * 10 ^ ds.length := by
    intro ds
    induction ds with
    | nil => simp
    | cons c ds ih =>
      intro n
      have hdigit : (digitValue? c).getD 0 ≤ 9 := by
        cases hc : digitValue? c with
        | none => simp
        | some d => exact Text.digitValue?_le hc
      refine (ih _).trans_le ?_
      rw [List.length_cons, pow_succ', ← mul_assoc]
      exact Nat.mul_le_mul_right _ (by dsimp only; omega)
  simpa [value] using hstep ds 0

theorem natAbs_signed (negative : Bool) (n : Nat) : (signed negative n).natAbs = n := by
  cases negative <;> simp [signed]

theorem read?_eq_some {cs : List Char} {n : Int} (h : read? cs = some n) :
    (splitSign cs).2 ≠ [] ∧ (∀ c ∈ (splitSign cs).2, isDigit c = true) ∧
      (splitSign cs).2.length ≤ digitLimit ∧
      signed (splitSign cs).1 (value (splitSign cs).2) = n := by
  simp only [read?] at h
  split_ifs at h with hdigits
  simp only [Bool.and_eq_true, Bool.not_eq_true', List.isEmpty_eq_false_iff, List.all_eq_true,
    decide_eq_true_eq] at hdigits
  exact ⟨hdigits.1.1, hdigits.1.2, hdigits.2, Option.some.inj h⟩

/-- An integer that is read may be written. -/
theorem natAbs_lt_of_read? {cs : List Char} {n : Int} (h : read? cs = some n) :
    n.natAbs < 10 ^ digitLimit := by
  obtain ⟨-, -, hlength, rfl⟩ := read?_eq_some h
  rw [natAbs_signed]
  exact (value_lt _).trans_le (Nat.pow_le_pow_right (by decide) hlength)

end Numeral

/-! ### Fields of a date -/

namespace TypedValue

theorem asciiDigit?_le {least greatest n : Nat} {c : Char}
    (h : asciiDigit? least greatest c = some n) : n ≤ greatest := by
  simp only [asciiDigit?] at h
  split_ifs at h with hrange
  simp only [Bool.and_eq_true, decide_eq_true_eq] at hrange
  obtain rfl := Option.some.inj h
  exact hrange.2

theorem hourField?_le {cs : List Char} {hour : Nat} (h : hourField? cs = some hour) :
    hour ≤ 23 := by
  unfold hourField? at h
  split at h
  · split_ifs at h
    · obtain ⟨n, hn, rfl⟩ := Option.map_eq_some_iff.1 h
      have := asciiDigit?_le hn
      omega
    · obtain ⟨n, hn, rfl⟩ := Option.map_eq_some_iff.1 h
      have := Text.digitValue?_le hn
      omega
    · have := Text.digitValue?_le h
      omega
  · have := Text.digitValue?_le h
    omega
  · cases h

theorem minuteField?_le {cs : List Char} {minute : Nat} (h : minuteField? cs = some minute) :
    minute ≤ 59 := by
  unfold minuteField? at h
  split at h
  · split at h
    · rename_i tens units htens hunits
      obtain rfl := Option.some.inj h
      have := asciiDigit?_le htens
      have := Text.digitValue?_le hunits
      omega
    · cases h
  · have := Text.digitValue?_le h
    omega
  · cases h

theorem timeOfDay?_lt {cs : List Char} {second : Nat} (h : timeOfDay? cs = some second) :
    second < 86400 := by
  simp only [timeOfDay?] at h
  split at h
  · rename_i hour mark rest hhour hrest
    obtain ⟨minute, hminute, rfl⟩ := Option.map_eq_some_iff.1 h
    have := hourField?_le hhour
    have := minuteField?_le hminute
    omega
  · cases h

/-- A year is written with four digits. -/
theorem yearField?_eq_some {cs : List Char} {year : Nat} (h : yearField? cs = some year) :
    cs.length = 4 ∧ (∀ c ∈ cs, isDigit c = true) ∧ year ≤ 9999 := by
  unfold yearField? at h
  split at h
  · rename_i a b c d
    split_ifs at h with hdigits
    obtain rfl := Option.some.inj h
    have hbound := Numeral.value_lt [a, b, c, d]
    norm_num at hbound
    exact ⟨rfl, List.all_eq_true.1 hdigits, by omega⟩
  · cases h

end TypedValue

/-! ### The calendar -/

namespace Calendar

/-- The date has a moment in the years 1 to 9999. -/
structure Date.IsInYears (date : Date) : Prop where
  valid : date.isValid = true
  first : 1 ≤ date.year
  last : date.year ≤ 9999

theorem monthLength_le (year month : Int) : monthLength year month ≤ 31 := by
  simp only [monthLength]
  split_ifs <;> decide

theorem Date.IsInYears.number_bounds {date : Date} (h : date.IsInYears)
    (hfirst : date ≠ ⟨1, 1, 1⟩) :
    number ⟨1, 1, 2⟩ ≤ date.number ∧ date.number < number ⟨10000, 1, 1⟩ := by
  obtain ⟨year, month, day⟩ := date
  have hyears := And.intro h.first h.last
  have hvalid := h.valid
  have hlength := monthLength_le year month
  have hother : ¬ (year = 1 ∧ month = 1 ∧ day = 1) := by
    rintro ⟨rfl, rfl, rfl⟩
    exact hfirst rfl
  have hsecond : number ⟨1, 1, 2⟩ = -719161 := by decide
  have hend : number ⟨10000, 1, 1⟩ = 2932897 := by decide
  simp only [isValid, Bool.and_eq_true, decide_eq_true_eq] at hvalid hyears
  rw [hsecond, hend]
  simp only [number]
  split_ifs with hmonth <;> omega

/-- The moment of a date is in the calendar unless it is on the first day. -/
theorem failsIff_timestamp {date : Date} (h : date.IsInYears) {second : Int} (hlow : 0 ≤ second)
    (hhigh : second < secondsPerDay) : FailsIff (date = ⟨1, 1, 1⟩) (timestamp date second) := by
  have hday : secondsPerDay = 86400 := rfl
  have hbegin : firstSecond = -719161 * 86400 := by decide
  by_cases hfirst : date = ⟨1, 1, 1⟩
  · have hearly : timestamp date second = .error .outsideCalendar := by
      have hnumber : date.number = -719162 := by
        rw [hfirst]
        decide
      rw [timestamp, if_neg]
      simp only [Bool.and_eq_true, decide_eq_true_eq, hday]
      omega
    exact FailsIff.of_error hearly trivial hfirst
  · obtain ⟨hlower, hupper⟩ := h.number_bounds hfirst
    have hsecond : Date.number ⟨1, 1, 2⟩ = -719161 := by decide
    have hwithin : timestamp date second = .ok (date.number * secondsPerDay + second) := by
      rw [timestamp, if_pos]
      simp only [Bool.and_eq_true, decide_eq_true_eq, lastSecond, hday]
      omega
    exact FailsIff.of_ok hwithin hfirst

end Calendar

/-! ### Dates as they are written -/

namespace TypedValue

/-- All that reading a date can do. -/
theorem date?_cases {cs : List Char} {date : Calendar.Date} {second : Nat}
    (h : date? cs = some (date, second)) :
    ∃ rest rest' : List Char, ∃ year month day : Nat, cs.drop 4 = '-' :: rest ∧
      rest.dropWhile (· != '-') = '-' :: rest' ∧ yearField? (cs.take 4) = some year ∧
      monthField? (rest.takeWhile (· != '-')) = some month ∧
      (∃ written, dayField? (rest'.takeWhile written) = some day) ∧
      date = ⟨year, month, day⟩ ∧ 1 ≤ year ∧ date.isValid = true ∧ second < 86400 := by
  simp only [date?] at h
  split at h
  · rename_i rest hrest
    split at h
    · rename_i rest' hrest'
      split at h
      · rename_i year month day hyear hmonth hday
        split_ifs at h with hvalid
        simp only [Bool.and_eq_true, decide_eq_true_eq] at hvalid
        have hfields : date = ⟨year, month, day⟩ ∧ second < 86400 := by
          split at h
          · obtain ⟨rfl, rfl⟩ := Prod.mk.inj (Option.some.inj h)
            exact ⟨rfl, by decide⟩
          · obtain ⟨second', hsecond, heq⟩ := Option.map_eq_some_iff.1 h
            obtain ⟨rfl, rfl⟩ := Prod.mk.inj heq
            exact ⟨rfl, timeOfDay?_lt hsecond⟩
        exact ⟨rest, rest', year, month, day, hrest, hrest', hyear, hmonth, ⟨_, hday⟩, hfields.1,
          hvalid.1, hfields.1 ▸ hvalid.2, hfields.2⟩
      · cases h
    · cases h
  · cases h

theorem isInYears_of_date? {cs : List Char} {date : Calendar.Date} {second : Nat}
    (h : date? cs = some (date, second)) : date.IsInYears ∧ second < 86400 := by
  obtain ⟨rest, rest', year, month, day, -, -, hyear, -, -, rfl, hfirst, hvalid, hsecond⟩ :=
    date?_cases h
  obtain ⟨-, -, hlast⟩ := yearField?_eq_some hyear
  exact ⟨⟨hvalid, by dsimp only; omega, by dsimp only; omega⟩, hsecond⟩

/-- A date begins with the four digits of its year and a hyphen, and goes on for at least three
characters. -/
theorem shape_of_date? {cs : List Char} {date : Calendar.Date} {second : Nat}
    (h : date? cs = some (date, second)) :
    ∃ year rest : List Char, cs = year ++ '-' :: rest ∧ year.length = 4 ∧
      (∀ c ∈ year, isDigit c = true) ∧ 3 ≤ rest.length := by
  obtain ⟨rest, rest', year, month, day, hrest, hrest', hyear, hmonth, ⟨written, hday⟩, -⟩ :=
    date?_cases h
  obtain ⟨hlength, hdigits, -⟩ := yearField?_eq_some hyear
  have hmonthWritten : rest.takeWhile (· != '-') ≠ [] := by
    intro hnone
    rw [hnone] at hmonth
    cases hmonth
  have hdayWritten : rest' ≠ [] := by
    rintro rfl
    cases hday
  refine ⟨cs.take 4, rest, by rw [← hrest, List.take_append_drop], hlength, hdigits, ?_⟩
  rw [← List.takeWhile_append_dropWhile (p := (· != '-')) (l := rest), hrest', List.length_append,
    List.length_cons]
  have := List.length_pos_of_ne_nil hmonthWritten
  have := List.length_pos_of_ne_nil hdayWritten
  omega

end TypedValue

end ListingFilter
