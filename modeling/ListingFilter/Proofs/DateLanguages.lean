import ListingFilter.Proofs.NumeralLanguages
import ListingFilter.Proofs.WrittenIntegers
/-!
# The language of dates

The fields of a date are numerals of one or two characters within the bounds of the field, and the
year has four digits. A digit after the first one may be of any script where its value does not
matter. A text is read as a date if it is put together from fields and the day exists.
-/

namespace ListingFilter

open Text (isDigit digitValue?)
open scoped Computability

namespace TypedValue

variable {cs : List Char} {a b c : Char} {n : Nat} {p q : Char → Prop}

/-! ### Fields -/

/-- The texts of one character from `first` to `last`. -/
def between (first last : Char) : Language Char :=
  oneOf fun c => first.toNat ≤ c.toNat ∧ c.toNat ≤ last.toNat

def years : Language Char := digit * (digit * (digit * digit))

def months : Language Char :=
  oneOf (· ∈ ['1']) * between '0' '2' + oneOf (· ∈ ['0']) * between '1' '9' + between '1' '9'

/-- A day has a blank in the place of a zero, too. -/
def days : Language Char :=
  oneOf (· ∈ ['3']) * between '0' '1' + oneOf (· ∈ ['1', '2']) * digit +
    oneOf (· ∈ ['0', ' ']) * between '1' '9' + between '1' '9'

def hours : Language Char :=
  oneOf (· ∈ ['2']) * between '0' '3' + oneOf (· ∈ ['0', '1']) * digit + digit

def minutes : Language Char := between '0' '5' * digit + digit

theorem mem_oneOf : cs ∈ oneOf p ↔ ∃ c, p c ∧ cs = [c] := Iff.rfl

theorem mem_oneOf_mul_oneOf : cs ∈ oneOf p * oneOf q ↔ ∃ a b, p a ∧ q b ∧ cs = [a, b] := by
  rw [mem_oneOf_mul]
  constructor
  · rintro ⟨a, _, ha, ⟨b, hb, rfl⟩, rfl⟩
    exact ⟨a, b, ha, hb, rfl⟩
  · rintro ⟨a, b, ha, hb, rfl⟩
    exact ⟨a, [b], ha, ⟨b, hb, rfl⟩, rfl⟩

theorem value_pair (a b : Char) :
    Numeral.value [a, b] = 10 * Numeral.value [a] + Numeral.value [b] := by
  simp [Numeral.value]

theorem digitValue?_eq_some_iff :
    digitValue? c = some n ↔ isDigit c = true ∧ Numeral.value [c] = n := by
  cases hc : digitValue? c <;> simp [isDigit, Numeral.value, hc]

theorem isDigit_of_toNat (hfirst : 48 ≤ c.toNat) (hlast : c.toNat ≤ 57) : c.isDigit = true := by
  simp only [Char.isDigit, Bool.and_eq_true, decide_eq_true_eq, ge_iff_le, UInt32.le_iff_toNat_le]
  exact ⟨hfirst, hlast⟩

/-- A digit that is tested by its code has the value that its code tells. -/
theorem asciiDigit?_eq_some_iff {least greatest : Nat} (h : greatest ≤ 9) :
    asciiDigit? least greatest c = some n ↔
      (48 + least ≤ c.toNat ∧ c.toNat ≤ 48 + greatest) ∧ Numeral.value [c] = n := by
  have hvalue : 48 ≤ c.toNat → c.toNat ≤ 57 → Numeral.value [c] = c.toNat - 48 := by
    intro hfirst hlast
    simp [Numeral.value, Text.digitValue?_of_isDigit (isDigit_of_toNat hfirst hlast)]
  simp only [asciiDigit?, Bool.and_eq_true, decide_eq_true_eq]
  split_ifs with hrange
  · rw [hvalue hrange.1.1 (by omega), Option.some.injEq]
    exact ⟨fun heq => ⟨by omega, heq⟩, fun h => h.2⟩
  · refine iff_of_false (by simp) fun h => hrange (by omega)

theorem value_fixed : Numeral.value [' '] = 0 ∧ Numeral.value ['0'] = 0 ∧
    Numeral.value ['1'] = 1 ∧ Numeral.value ['2'] = 2 ∧ Numeral.value ['3'] = 3 := by decide

theorem yearField?_eq_some_iff :
    yearField? cs = some n ↔ cs ∈ years ∧ Numeral.value cs = n := by
  simp only [years, digit, mem_oneOf_mul, mem_oneOf]
  rcases cs with _ | ⟨a, _ | ⟨b, _ | ⟨c, _ | ⟨d, _ | ⟨e, cs⟩⟩⟩⟩⟩ <;> simp [yearField?, and_assoc]

theorem monthField?_eq_some_iff :
    monthField? cs = some n ↔ cs ∈ months ∧ Numeral.value cs = n := by
  simp only [months, between, Language.mem_add, mem_oneOf_mul_oneOf, mem_oneOf]
  rcases cs with _ | ⟨a, _ | ⟨b, _ | ⟨c, cs⟩⟩⟩
  · simp [monthField?]
  · simp [monthField?, asciiDigit?_eq_some_iff]
  · rw [value_pair, monthField?]
    split_ifs with hone hzero
    · simp [asciiDigit?_eq_some_iff, hone, value_fixed, and_assoc]
    · simp [asciiDigit?_eq_some_iff, hzero, value_fixed]
    · simp [hone, hzero]
  · simp [monthField?]

theorem dayField?_eq_some_iff :
    dayField? cs = some n ↔ cs ∈ days ∧ Numeral.value cs = n := by
  simp only [days, between, digit, Language.mem_add, mem_oneOf_mul_oneOf, mem_oneOf]
  rcases cs with _ | ⟨a, _ | ⟨b, _ | ⟨c, cs⟩⟩⟩
  · simp [dayField?]
  · simp [dayField?, asciiDigit?_eq_some_iff]
  · rw [value_pair, dayField?]
    split_ifs with hthree htwo hone hzero
    · simp [asciiDigit?_eq_some_iff, hthree, value_fixed, and_assoc]
    · simp [digitValue?_eq_some_iff, htwo, value_fixed, and_assoc]
    · simp [digitValue?_eq_some_iff, hone, value_fixed, and_assoc]
    · rcases Bool.or_eq_true_iff.1 hzero with hzero | hzero <;>
        simp [asciiDigit?_eq_some_iff, of_decide_eq_true hzero, value_fixed]
    · simp_all
  · simp [dayField?]

theorem hourField?_eq_some_iff :
    hourField? cs = some n ↔ cs ∈ hours ∧ Numeral.value cs = n := by
  simp only [hours, between, digit, Language.mem_add, mem_oneOf_mul_oneOf, mem_oneOf]
  rcases cs with _ | ⟨a, _ | ⟨b, _ | ⟨c, cs⟩⟩⟩
  · simp [hourField?]
  · simp [hourField?, digitValue?_eq_some_iff]
  · rw [value_pair, hourField?]
    split_ifs with htwo hone hzero
    · simp [asciiDigit?_eq_some_iff, htwo, value_fixed, and_assoc]
    · simp [digitValue?_eq_some_iff, hone, value_fixed, and_assoc]
    · simp [digitValue?_eq_some_iff, hzero, value_fixed]
    · simp_all
  · simp [hourField?]

theorem minuteField?_eq_some_iff :
    minuteField? cs = some n ↔ cs ∈ minutes ∧ Numeral.value cs = n := by
  simp only [minutes, between, digit, Language.mem_add, mem_oneOf_mul_oneOf, mem_oneOf]
  rcases cs with _ | ⟨a, _ | ⟨b, _ | ⟨c, cs⟩⟩⟩
  · simp [minuteField?]
  · simp [minuteField?, digitValue?_eq_some_iff]
  · rw [value_pair]
    constructor
    · intro h
      simp only [minuteField?] at h
      split at h
      · rename_i tens units htens hunits
        obtain ⟨hrange, rfl⟩ := (asciiDigit?_eq_some_iff (by decide)).1 htens
        obtain ⟨hdigit, rfl⟩ := digitValue?_eq_some_iff.1 hunits
        exact ⟨.inl ⟨a, b, hrange, hdigit, rfl⟩, Option.some.inj h⟩
      · cases h
    · rintro ⟨⟨_, _, hrange, hdigit, heq⟩ | ⟨_, -, heq⟩, rfl⟩
      · cases heq
        rw [minuteField?, (asciiDigit?_eq_some_iff (by decide)).2 ⟨hrange, rfl⟩,
          digitValue?_eq_some_iff.2 ⟨hdigit, rfl⟩]
      · cases heq
  · simp [minuteField?]

/-! ### The characters of a field -/

/-- All characters of the texts of the language are of the kind. -/
def ConsistsOf (p : Char → Prop) (l : Language Char) : Prop := ∀ cs ∈ l, ∀ c ∈ cs, p c

theorem consistsOf_oneOf (h : ∀ c, q c → p c) : ConsistsOf p (oneOf q) := by
  rintro _ ⟨c, hc, rfl⟩ d hd
  rw [List.mem_singleton.1 hd]
  exact h c hc

theorem ConsistsOf.mul {l m : Language Char} (hl : ConsistsOf p l) (hm : ConsistsOf p m) :
    ConsistsOf p (l * m) := by
  intro cs hcs c hc
  obtain ⟨front, hfront, rest, hrest, rfl⟩ := mem_mul_iff.1 hcs
  rcases List.mem_append.1 hc with hc | hc
  · exact hl front hfront c hc
  · exact hm rest hrest c hc

theorem ConsistsOf.add {l m : Language Char} (hl : ConsistsOf p l) (hm : ConsistsOf p m) :
    ConsistsOf p (l + m) := by
  intro cs hcs
  rcases (Language.mem_add _ _ _).1 hcs with hcs | hcs
  · exact hl cs hcs
  · exact hm cs hcs

/-- A blank may stand in front of the digit of a day. -/
def isFieldCharacter (c : Char) : Bool := isDigit c || c == ' '

theorem consistsOf_listed {listed : List Char} (h : listed.all isFieldCharacter = true) :
    ConsistsOf (isFieldCharacter · = true) (oneOf (· ∈ listed)) :=
  consistsOf_oneOf fun c hc => List.all_eq_true.1 h c hc

theorem consistsOf_digit : ConsistsOf (isFieldCharacter · = true) digit :=
  consistsOf_oneOf fun c hc => by simp [isFieldCharacter, hc]

theorem consistsOf_between {first last : Char} (hfirst : 48 ≤ first.toNat)
    (hlast : last.toNat ≤ 57) : ConsistsOf (isFieldCharacter · = true) (between first last) :=
  consistsOf_oneOf fun c hc => by
    have hdigit := isDigit_of_toNat (hfirst.trans hc.1) (hc.2.trans hlast)
    simp [isFieldCharacter, Text.isDigit_of_isDigit hdigit]

theorem consistsOf_months : ConsistsOf (isFieldCharacter · = true) months :=
  (((consistsOf_listed (by decide)).mul (consistsOf_between (by decide) (by decide))).add
    ((consistsOf_listed (by decide)).mul (consistsOf_between (by decide) (by decide)))).add
    (consistsOf_between (by decide) (by decide))

theorem consistsOf_days : ConsistsOf (isFieldCharacter · = true) days :=
  ((((consistsOf_listed (by decide)).mul (consistsOf_between (by decide) (by decide))).add
    ((consistsOf_listed (by decide)).mul consistsOf_digit)).add
    ((consistsOf_listed (by decide)).mul (consistsOf_between (by decide) (by decide)))).add
    (consistsOf_between (by decide) (by decide))

theorem consistsOf_hours : ConsistsOf (isFieldCharacter · = true) hours :=
  (((consistsOf_listed (by decide)).mul (consistsOf_between (by decide) (by decide))).add
    ((consistsOf_listed (by decide)).mul consistsOf_digit)).add consistsOf_digit

/-! ### Dates and times of day -/

/-- The characters between the hours and the minutes. -/
def timeSeparators : List Char := [':', 'h', 'H']

/-- The characters before a time of day. -/
def timeMarks : List Char := ['T', 't']

/-- The text is put together from the fields of the date, and of the time of day if it has one,
which is the beginning of the day else. -/
inductive IsDate : List Char → Calendar.Date → Nat → Prop
  | day {year month day : List Char} : year ∈ years → month ∈ months → day ∈ days →
      IsDate (year ++ '-' :: (month ++ '-' :: day))
        ⟨Numeral.value year, Numeral.value month, Numeral.value day⟩ 0
  | time {year month day hour minute : List Char} {mark separator : Char} :
      year ∈ years → month ∈ months → day ∈ days → mark ∈ timeMarks → hour ∈ hours →
      separator ∈ timeSeparators → minute ∈ minutes →
      IsDate (year ++ '-' :: (month ++ '-' :: (day ++ mark :: (hour ++ separator :: minute))))
        ⟨Numeral.value year, Numeral.value month, Numeral.value day⟩
        (3600 * Numeral.value hour + 60 * Numeral.value minute)

/-- The texts of the days of the calendar, with or without a time of day. -/
def dates : Language Char :=
  {cs | ∃ date second, IsDate cs date second ∧ 1 ≤ date.year ∧ date.isValid = true}

theorem takeWhile_append_cons {front : List Char} {p : Char → Bool} (h : ∀ c ∈ front, p c = true)
    (hc : p c = false) (rest : List Char) :
    (front ++ c :: rest).takeWhile p = front ∧ (front ++ c :: rest).dropWhile p = c :: rest := by
  rw [List.takeWhile_append_of_pos h, List.dropWhile_append_of_pos h]
  simp [hc]

theorem eq_append_of_dropWhile {rest : List Char} {p : Char → Bool}
    (h : cs.dropWhile p = c :: rest) :
    cs = cs.takeWhile p ++ c :: rest ∧ p c = false := by
  have hhead := List.head?_dropWhile_not p cs
  rw [h] at hhead
  exact ⟨by rw [← h, List.takeWhile_append_dropWhile], by simpa using hhead⟩

theorem mem_timeSeparators :
    c ∈ timeSeparators ↔ (!(c == ':' || c == 'h' || c == 'H')) = false := by
  simp only [timeSeparators, List.mem_cons, List.not_mem_nil, or_false, Bool.not_eq_false',
    Bool.or_eq_true, beq_iff_eq, or_assoc]

theorem mem_timeMarks : c ∈ timeMarks ↔ (!(c == 'T' || c == 't')) = false := by
  simp only [timeMarks, List.mem_cons, List.not_mem_nil, or_false, Bool.not_eq_false',
    Bool.or_eq_true, beq_iff_eq]

theorem not_mem_of_isFieldCharacter (h : isFieldCharacter c = true) :
    c ≠ '-' ∧ c ∉ timeMarks ∧ c ∉ timeSeparators := by
  have hmarks : ('-' :: (timeMarks ++ timeSeparators)).all (!isFieldCharacter ·) = true := by
    decide
  have hother : c ∉ '-' :: (timeMarks ++ timeSeparators) := by
    intro hc
    simpa [h] using List.all_eq_true.1 hmarks c hc
  simpa using hother

theorem timeOfDay?_eq_some_iff {second : Nat} :
    timeOfDay? cs = some second ↔ ∃ hour ∈ hours, ∃ separator ∈ timeSeparators, ∃ minute ∈ minutes,
      cs = hour ++ separator :: minute ∧
        3600 * Numeral.value hour + 60 * Numeral.value minute = second := by
  constructor
  · intro h
    simp only [timeOfDay?] at h
    split at h
    · rename_i hour separator minute hhour hrest
      obtain ⟨hcs, hseparator⟩ := eq_append_of_dropWhile hrest
      obtain ⟨hmem, rfl⟩ := hourField?_eq_some_iff.1 hhour
      obtain ⟨_, hminute, rfl⟩ := Option.map_eq_some_iff.1 h
      obtain ⟨hmem', rfl⟩ := minuteField?_eq_some_iff.1 hminute
      exact ⟨_, hmem, separator, mem_timeSeparators.2 hseparator, minute, hmem', hcs, rfl⟩
    · cases h
  · rintro ⟨hour, hhour, separator, hseparator, minute, hminute, rfl, rfl⟩
    have hmarked : ∀ c ∈ hour, (!(c == ':' || c == 'h' || c == 'H')) = true := by
      intro c hc
      have hother := (not_mem_of_isFieldCharacter (consistsOf_hours hour hhour c hc)).2.2
      rwa [mem_timeSeparators, Bool.not_eq_false] at hother
    obtain ⟨htake, hdrop⟩ :=
      takeWhile_append_cons hmarked (mem_timeSeparators.1 hseparator) minute
    simp only [timeOfDay?, htake, hdrop, hourField?_eq_some_iff.2 ⟨hhour, rfl⟩,
      minuteField?_eq_some_iff.2 ⟨hminute, rfl⟩, Option.map_some]

theorem length_of_years (h : cs ∈ years) : cs.length = 4 :=
  (yearField?_eq_some (yearField?_eq_some_iff.2 ⟨h, rfl⟩)).1

/-- A text is read as its fields, whatever comes after the day. -/
theorem date?_written {year month day : List Char} (hyear : year ∈ years)
    (hmonth : month ∈ months) (hday : day ∈ days) (tail : List Char)
    (htail : ∀ c ∈ tail.head?, c ∈ timeMarks) :
    date? (year ++ '-' :: (month ++ '-' :: (day ++ tail))) =
      let date : Calendar.Date := ⟨Numeral.value year, Numeral.value month, Numeral.value day⟩
      if 1 ≤ Numeral.value year && date.isValid then
        if tail = [] then some (date, 0)
        else (timeOfDay? tail.tail).map fun second => (date, second)
      else none := by
  have hlength := length_of_years hyear
  have hhyphen : ∀ c ∈ month, (c != '-') = true := fun c hc =>
    bne_iff_ne.2 (not_mem_of_isFieldCharacter (consistsOf_months month hmonth c hc)).1
  have hunmarked : ∀ c ∈ day, (!(c == 'T' || c == 't')) = true := by
    intro c hc
    have hother := (not_mem_of_isFieldCharacter (consistsOf_days day hday c hc)).2.1
    rwa [mem_timeMarks, Bool.not_eq_false] at hother
  obtain ⟨hmonthTake, hmonthDrop⟩ := takeWhile_append_cons (c := '-') hhyphen rfl (day ++ tail)
  obtain ⟨hdayTake, hdayDrop⟩ := takeWhile_eq_nil_of_head fun c hc => mem_timeMarks.1 (htail c hc)
  simp only [date?, List.drop_left' hlength, List.take_left' hlength, hmonthTake, hmonthDrop,
    List.takeWhile_append_of_pos hunmarked, List.dropWhile_append_of_pos hunmarked, hdayTake,
    hdayDrop, List.append_nil, yearField?_eq_some_iff.2 ⟨hyear, rfl⟩,
    monthField?_eq_some_iff.2 ⟨hmonth, rfl⟩, dayField?_eq_some_iff.2 ⟨hday, rfl⟩]
  cases tail <;> simp

theorem date?_eq_some_iff {date : Calendar.Date} {second : Nat} :
    date? cs = some (date, second) ↔
      IsDate cs date second ∧ 1 ≤ date.year ∧ date.isValid = true := by
  constructor
  · intro h
    simp only [date?] at h
    split at h
    · rename_i rest hrest
      split at h
      · rename_i rest' hrest'
        split at h
        · rename_i year month day hyear hmonth hday
          split_ifs at h with hvalid
          simp only [Bool.and_eq_true, decide_eq_true_eq] at hvalid
          obtain ⟨hyear', rfl⟩ := yearField?_eq_some_iff.1 hyear
          obtain ⟨hmonth', rfl⟩ := monthField?_eq_some_iff.1 hmonth
          obtain ⟨hday', rfl⟩ := dayField?_eq_some_iff.1 hday
          obtain ⟨hmonths, -⟩ := eq_append_of_dropWhile hrest'
          have hcs : cs = cs.take 4 ++ '-' :: (rest.takeWhile (· != '-') ++ '-' ::
              (rest'.takeWhile (fun c => !(c == 'T' || c == 't')) ++
                rest'.dropWhile fun c => !(c == 'T' || c == 't'))) := by
            rw [List.takeWhile_append_dropWhile, ← hmonths, ← hrest, List.take_append_drop]
          split at h
          · rename_i hnone
            obtain ⟨rfl, rfl⟩ := Prod.mk.inj (Option.some.inj h)
            have hdate := IsDate.day hyear' hmonth' hday'
            rw [hnone, List.append_nil] at hcs
            rw [← hcs] at hdate
            exact ⟨hdate, by simpa using hvalid⟩
          · rename_i mark time htime
            obtain ⟨_, hsecond, heq⟩ := Option.map_eq_some_iff.1 h
            obtain ⟨rfl, rfl⟩ := Prod.mk.inj heq
            obtain ⟨hour, hhour, separator, hseparator, minute, hminute, rfl, rfl⟩ :=
              timeOfDay?_eq_some_iff.1 hsecond
            have hmark := mem_timeMarks.2 (eq_append_of_dropWhile htime).2
            have hdate := IsDate.time hyear' hmonth' hday' hmark hhour hseparator hminute
            rw [htime] at hcs
            rw [← hcs] at hdate
            exact ⟨hdate, by simpa using hvalid⟩
        · cases h
      · cases h
    · cases h
  · rintro ⟨hdate, hvalid⟩
    cases hdate with
    | day hyear hmonth hday =>
      have hread := date?_written hyear hmonth hday [] (by simp)
      rw [List.append_nil] at hread
      rw [hread]
      simpa using hvalid
    | time hyear hmonth hday hmark hhour hseparator hminute =>
      rename_i year month day hour minute mark separator
      have hsecond := timeOfDay?_eq_some_iff.2
        ⟨hour, hhour, separator, hseparator, minute, hminute, rfl, rfl⟩
      rw [date?_written hyear hmonth hday (mark :: (hour ++ separator :: minute))
        (by simpa using hmark)]
      simpa [hsecond] using hvalid

/-- A text is read as a date if it is that of a day of the calendar. -/
theorem mem_dates : cs ∈ dates ↔ ∃ date second, date? cs = some (date, second) := by
  simp only [date?_eq_some_iff]
  rfl

theorem endsIn_between {first last : Char} (hfirst : 48 ≤ first.toNat) (hlast : last.toNat ≤ 57) :
    EndsIn (isDigit · = true) (between first last) :=
  (endsIn_oneOf _).mono fun _ hc =>
    Text.isDigit_of_isDigit (isDigit_of_toNat (hfirst.trans hc.1) (hc.2.trans hlast))

theorem endsIn_days : EndsIn (isDigit · = true) days :=
  ((((endsIn_between (by decide) (by decide)).mul _).add ((endsIn_oneOf _).mul _)).add
    ((endsIn_between (by decide) (by decide)).mul _)).add (endsIn_between (by decide) (by decide))

theorem endsIn_minutes : EndsIn (isDigit · = true) minutes :=
  ((endsIn_oneOf _).mul _).add (endsIn_oneOf _)

theorem endsIn_dates : EndsIn (isDigit · = true) dates := by
  rintro cs ⟨date, second, hdate, -⟩
  cases hdate with
  | @day year month day _ _ hday =>
    obtain ⟨front, c, hc, rfl⟩ := endsIn_days day hday
    exact ⟨year ++ '-' :: (month ++ '-' :: front), c, hc, by simp⟩
  | @time year month day hour minute mark separator _ _ _ _ _ _ hminute =>
    obtain ⟨front, c, hc, rfl⟩ := endsIn_minutes minute hminute
    exact ⟨year ++ '-' :: (month ++ '-' :: (day ++ mark :: (hour ++ separator :: front))), c, hc,
      by simp⟩

end TypedValue

end ListingFilter
