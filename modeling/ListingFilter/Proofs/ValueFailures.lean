import ListingFilter.Proofs.CalendarBounds
import ListingFilter.Proofs.Controls
/-!
# Values that cannot be read

Of all values only a date on the first day of the calendar cannot be read: a shift by months that
leaves the calendar is no relative time, and a long numeral is a string. A relative time may be an
integer that is too long to be written, which matters to the controls alone.
-/

namespace ListingFilter

open Text (isDigit isDigitSymbol)

/-- The clock shows a finite number. -/
def Clock.IsFinite : Clock → Prop
  | .whole _ => True
  | .real seconds => seconds.isFinite = true

theorem Clock.IsFinite.exists_truncated {clock : Clock} (h : clock.IsFinite) :
    ∃ now, clock.truncated = .ok now := by
  cases clock with
  | whole seconds => exact ⟨seconds, rfl⟩
  | real seconds =>
    cases seconds with
    | finite negative mantissa exponent => exact ⟨_, rfl⟩
    | infinite negative => cases h
    | nan => cases h

/-! ### Signs and digits -/

namespace Numeral

/-- A sign is the first character. -/
theorem splitSign_cases (cs : List Char) :
    (splitSign cs).2 = cs ∨ ∃ c rest, cs = c :: rest ∧ (c = '-' ∨ c = '+') ∧
      splitSign cs = (c == '-', rest) := by
  unfold splitSign
  split
  · exact .inr ⟨_, _, rfl, .inl rfl, rfl⟩
  · exact .inr ⟨_, _, rfl, .inr rfl, rfl⟩
  · exact .inl rfl

/-- After the first character everything is a digit. -/
theorem isDigit_of_isSignedDigits {cs front back : List Char} (h : isSignedDigits cs = true)
    (hcs : cs = front ++ back) (hfront : front ≠ []) : ∀ c ∈ back, isDigit c = true := by
  intro c hc
  simp only [isSignedDigits, Bool.and_eq_true] at h
  refine List.all_eq_true.1 h.2 c ?_
  rcases splitSign_cases cs with hnone | ⟨sign, rest, hsign, -, hsplit⟩
  · rw [hnone, hcs]
    exact List.mem_append_right front hc
  · rw [hsplit]
    obtain ⟨first, front, rfl⟩ := List.exists_cons_of_ne_nil hfront
    obtain ⟨-, rfl⟩ := List.cons.inj (hsign.symm.trans hcs)
    exact List.mem_append_right front hc

theorem isSignedDigits_of_read? {cs : List Char} {n : Int} (h : read? cs = some n) :
    isSignedDigits cs = true := by
  obtain ⟨hnonempty, hdigits, -⟩ := read?_eq_some h
  simpa [isSignedDigits, hnonempty] using hdigits

end Numeral

namespace TypedValue

variable {clock : Clock} {cs front : List Char} {column : Option String} {text : String}

/-! ### The end of a line -/

theorem dropLineEnd_cases (cs : List Char) :
    dropLineEnd cs = cs ∨ cs = dropLineEnd cs ++ ['\n'] := by
  unfold dropLineEnd
  split
  · rename_i rest heq
    exact .inr (by rw [← List.reverse_reverse cs, heq, List.reverse_cons])
  · exact .inl rfl

theorem dropLineEnd_append {rest : List Char} (h : rest ≠ []) :
    dropLineEnd (front ++ rest) = front ++ dropLineEnd rest := by
  cases hrest : rest.reverse with
  | nil => exact absurd (List.reverse_eq_nil_iff.1 hrest) h
  | cons last init =>
    by_cases hlast : last = '\n'
    · simp [dropLineEnd, hrest, hlast]
    · simp [dropLineEnd, hrest, hlast]

/-! ### Relative times -/

theorem relativeTime?_of_dropLineEnd {unit : Char} (h : dropLineEnd cs = front ++ [unit]) :
    relativeTime? clock cs =
      match Numeral.read? front with
      | some amount => shiftBy? clock amount unit
      | none => .ok none := by
  cases hread : Numeral.read? front <;> simp [relativeTime?, h, hread]

theorem relativeTime?_cases {n : Int} (h : relativeTime? clock cs = .ok (some n)) :
    ∃ front unit amount, dropLineEnd cs = front ++ [unit] ∧ Numeral.read? front = some amount ∧
      shiftBy? clock amount unit = .ok (some n) := by
  rcases List.eq_nil_or_concat' (dropLineEnd cs) with hnone | ⟨front, unit, hcs⟩
  · simp [relativeTime?, hnone] at h
  · rw [relativeTime?_of_dropLineEnd hcs] at h
    cases hread : Numeral.read? front with
    | none => simp [hread] at h
    | some amount =>
      rw [hread] at h
      exact ⟨front, unit, amount, hcs, hread, h⟩

/-- A number of days before or after the time that the clock shows. -/
theorem relativeTime?_days (now : Int) {amount : Int}
    (h : amount.natAbs < 10 ^ Numeral.digitLimit) :
    relativeTime? (.whole now) ((toString amount).toList ++ ['d']) =
      .ok (some (now + amount * 86400)) := by
  have hend : dropLineEnd ((toString amount).toList ++ ['d']) =
      (toString amount).toList ++ ['d'] := dropLineEnd_append (by simp)
  rw [relativeTime?_of_dropLineEnd hend, Numeral.read?_toString h]
  rfl

theorem exists_shiftBy? (hclock : clock.IsFinite) (amount : Int) (unit : Char) :
    ∃ moment, shiftBy? clock amount unit = .ok moment := by
  obtain ⟨now, hnow⟩ := hclock.exists_truncated
  unfold shiftBy?
  split
  · exact ⟨_, rfl⟩
  · rw [hnow]
    exact ⟨_, rfl⟩
  · exact ⟨_, rfl⟩

theorem exists_relativeTime? (hclock : clock.IsFinite) (cs : List Char) :
    ∃ moment, relativeTime? clock cs = .ok moment := by
  rcases List.eq_nil_or_concat' (dropLineEnd cs) with hnone | ⟨front, unit, hcs⟩
  · exact ⟨none, by simp [relativeTime?, hnone]⟩
  · rw [relativeTime?_of_dropLineEnd hcs]
    cases Numeral.read? front with
    | none => exact ⟨none, rfl⟩
    | some amount => exact exists_shiftBy? hclock amount unit

/-- No unit of time is a digit. -/
theorem isDigit_unit {amount n : Int} {unit : Char}
    (h : shiftBy? clock amount unit = .ok (some n)) : isDigit unit = false := by
  have hunit : unit ∈ ['M', 'y', 's', 'm', 'h', 'd', 'w'] := by
    by_contra hother
    simp only [List.mem_cons, List.not_mem_nil, or_false, not_or] at hother
    simp [shiftBy?, unitMonths?, unitSeconds?, hother] at h
  have hall : (['M', 'y', 's', 'm', 'h', 'd', 'w'].all (!isDigit ·)) = true := by decide +kernel
  simpa using List.all_eq_true.1 hall unit hunit

/-- A relative time is no integer written in digits. -/
theorem isSignedDigits_of_relativeTime? {n : Int} (h : relativeTime? clock cs = .ok (some n)) :
    Numeral.isSignedDigits (dropLineEnd cs) = false := by
  obtain ⟨front, unit, amount, hcs, hread, hshift⟩ := relativeTime?_cases h
  rw [Bool.eq_false_iff]
  intro hdigits
  have hfront : front ≠ [] := by
    rintro rfl
    cases hread
  have hunit := Numeral.isDigit_of_isSignedDigits hdigits hcs hfront unit List.mem_cons_self
  rw [isDigit_unit hshift] at hunit
  cases hunit

theorem startsLikeNumeral_of_isDigit {c : Char} (h : isDigit c = true) (cs : List Char) :
    startsLikeNumeral (c :: cs) = true := by
  have hsign : (c == '+' || c == '-') = false := by
    rw [Bool.eq_false_iff]
    intro hsign
    rcases Bool.or_eq_true_iff.1 hsign with heq | heq <;> rw [beq_iff_eq] at heq <;> subst heq <;>
      exact absurd h (by decide)
  cases cs with
  | nil => simp [startsLikeNumeral, isDigitSymbol, h]
  | cons d cs => simp [startsLikeNumeral, isDigitSymbol, h, hsign]

/-- Signed digits start with a sign and a digit, or with a digit, whatever comes after them. -/
theorem startsLikeNumeral_append (h : Numeral.isSignedDigits front = true) (rest : List Char) :
    startsLikeNumeral (front ++ rest) = true := by
  simp only [Numeral.isSignedDigits, Bool.and_eq_true, Bool.not_eq_true',
    List.isEmpty_eq_false_iff] at h
  obtain ⟨hnonempty, hdigits⟩ := h
  rcases Numeral.splitSign_cases front with hnone | ⟨sign, ds, rfl, hsign, hsplit⟩
  · rw [hnone] at hnonempty hdigits
    obtain ⟨first, ds, rfl⟩ := List.exists_cons_of_ne_nil hnonempty
    have hfirst : isDigit first = true := List.all_eq_true.1 hdigits first List.mem_cons_self
    rw [List.cons_append]
    exact startsLikeNumeral_of_isDigit hfirst _
  · rw [hsplit] at hnonempty hdigits
    obtain ⟨first, ds, rfl⟩ := List.exists_cons_of_ne_nil hnonempty
    have hfirst : isDigit first = true := List.all_eq_true.1 hdigits first List.mem_cons_self
    rcases hsign with rfl | rfl <;> simp [startsLikeNumeral, isDigitSymbol, hfirst]

theorem startsLikeNumeral_of_relativeTime? {n : Int}
    (h : relativeTime? clock cs = .ok (some n)) : startsLikeNumeral cs = true := by
  obtain ⟨front, unit, amount, hcs, hread, -⟩ := relativeTime?_cases h
  obtain ⟨rest, hwritten⟩ : ∃ rest, cs = front ++ rest := by
    rcases dropLineEnd_cases cs with hnone | hend
    · exact ⟨[unit], hnone.symm.trans hcs⟩
    · exact ⟨[unit, '\n'], by rw [hend, hcs, List.append_assoc]; rfl⟩
  rw [hwritten]
  exact startsLikeNumeral_append (Numeral.isSignedDigits_of_read? hread) rest

/-! ### Dates -/

theorem failsIff_dateTime? (cs : List Char) :
    FailsIff (∃ second, date? cs = some (⟨1, 1, 1⟩, second)) (dateTime? cs) := by
  unfold dateTime?
  cases hdate : date? cs with
  | none => exact FailsIff.of_ok rfl (by simp)
  | some found =>
    obtain ⟨date, second⟩ := found
    obtain ⟨hyears, hsecond⟩ := isInYears_of_date? hdate
    have hmoment := Calendar.failsIff_timestamp hyears (Int.natCast_nonneg second)
      (show (second : Int) < 86400 by omega)
    exact (hmoment.map some).congr (by simp)

/-- A date is neither an integer written in digits nor a relative time. -/
theorem other_of_date? (clock : Clock) {date : Calendar.Date} {second : Nat}
    (h : date? cs = some (date, second)) :
    startsLikeNumeral cs = true ∧ Numeral.isSignedDigits (dropLineEnd cs) = false ∧
      relativeTime? clock cs = .ok none := by
  obtain ⟨year, rest, rfl, hlength, hdigits, hrest⟩ := shape_of_date? h
  have hyear : year ≠ [] := by
    rintro rfl
    cases hlength
  have hnot : ∀ back : List Char, Numeral.isSignedDigits (year ++ '-' :: back) = false := by
    intro back
    rw [Bool.eq_false_iff]
    intro hsigned
    exact absurd (Numeral.isDigit_of_isSignedDigits hsigned rfl hyear '-' List.mem_cons_self)
      (by decide)
  have hdrop : dropLineEnd (year ++ '-' :: rest) = year ++ '-' :: dropLineEnd rest := by
    rw [List.append_cons, dropLineEnd_append (by rintro rfl; simp at hrest), ← List.append_cons]
  refine ⟨?_, by rw [hdrop, hnot], ?_⟩
  · obtain ⟨first, year, rfl⟩ := List.exists_cons_of_ne_nil hyear
    exact startsLikeNumeral_of_isDigit (hdigits first List.mem_cons_self) _
  · rcases List.eq_nil_or_concat' (dropLineEnd rest) with hnone | ⟨front, unit, hfront⟩
    · rcases dropLineEnd_cases rest with hsame | hend
      · rw [← hsame, hnone] at hrest
        simp at hrest
      · rw [hend, hnone] at hrest
        simp at hrest
    · have hunit : dropLineEnd (year ++ '-' :: rest) = year ++ '-' :: front ++ [unit] := by
        rw [hdrop, hfront]
        simp
      rw [relativeTime?_of_dropLineEnd hunit]
      cases hread : Numeral.read? (year ++ '-' :: front) with
      | none => rfl
      | some amount =>
        have hsigned := Numeral.isSignedDigits_of_read? hread
        rw [hnot] at hsigned
        cases hsigned

/-! ### Values -/

/-- A text that starts like a numeral cannot be read if it is a date on the first day. -/
theorem failsIff_ofNumeral (hclock : clock.IsFinite) (cs : List Char) :
    FailsIff (∃ second, date? cs = some (⟨1, 1, 1⟩, second)) (ofNumeral clock cs) := by
  unfold ofNumeral
  by_cases hsigned : Numeral.isSignedDigits (dropLineEnd cs) = true
  · have hnot : ¬ ∃ second, date? cs = some (⟨1, 1, 1⟩, second) := by
      rintro ⟨second, hdate⟩
      rw [(other_of_date? clock hdate).2.1] at hsigned
      cases hsigned
    rw [if_pos hsigned]
    cases Numeral.read? (dropLineEnd cs) <;> exact FailsIff.of_ok rfl hnot
  · rw [if_neg hsigned]
    obtain ⟨moment, hmoment⟩ := exists_relativeTime? hclock cs
    rw [hmoment]
    cases moment with
    | some n =>
      refine FailsIff.of_ok rfl ?_
      rintro ⟨second, hdate⟩
      rw [(other_of_date? clock hdate).2.2] at hmoment
      cases hmoment
    | none =>
      refine ⟨fun hdate => ?_, fun hdate => ?_⟩
      · obtain ⟨fault, hfault, hvalue⟩ := (failsIff_dateTime? cs).fails hdate
        exact ⟨fault, by simp [hfault], hvalue⟩
      · obtain ⟨moment, hmoment⟩ := (failsIff_dateTime? cs).returns hdate
        rw [hmoment]
        cases moment with
        | some n => exact ⟨_, rfl⟩
        | none => cases decimal? cs <;> exact ⟨_, rfl⟩

/-- No name of a severity is a date. -/
theorem date?_of_severity? {value : Binary64} (h : severity? text = some value) :
    date? text.toList = none := by
  by_contra hdate
  obtain ⟨⟨date, second⟩, hdate⟩ := Option.ne_none_iff_exists'.1 hdate
  obtain ⟨year, rest, htext, -⟩ := shape_of_date? hdate
  have hhyphen : '-' ∈ (Text.lower text).toList :=
    Text.mem_lower (by simp [htext]) (by decide) (by decide)
  have hnames : ∀ name ∈ ["log", "false positive", "error"], Text.lower text ≠ name := by
    rintro name hname heq
    rw [heq] at hhyphen
    simp only [List.mem_cons, List.not_mem_nil, or_false] at hname
    rcases hname with rfl | rfl | rfl <;> simp at hhyphen
  simp [severity?, hnames] at h

/-- A value cannot be read if it is a date on the first day. -/
theorem failsIff_of (hclock : clock.IsFinite) (column : Option String) (text : String) :
    FailsIff (∃ second, date? text.toList = some (⟨1, 1, 1⟩, second)) (of clock column text) := by
  have hread : FailsIff (∃ second, date? text.toList = some (⟨1, 1, 1⟩, second))
      (if startsLikeNumeral text.toList then ofNumeral clock text.toList else .ok .string) := by
    split_ifs with hstart
    · exact failsIff_ofNumeral hclock text.toList
    · refine FailsIff.of_ok rfl ?_
      rintro ⟨second, hdate⟩
      exact hstart (other_of_date? clock hdate).1
  unfold of
  split
  · rename_i value hseverity
    split_ifs at hseverity
    exact FailsIff.of_ok rfl (by simp [date?_of_severity? hseverity])
  · exact hread

/-! ### Integers that are too long -/

/-- The moment of a date is short. -/
theorem natAbs_lt_of_dateTime? {n : Int} (h : dateTime? cs = .ok (some n)) :
    n.natAbs < 10 ^ Numeral.digitLimit := by
  have hbound : Calendar.firstSecond ≤ n ∧ n ≤ Calendar.lastSecond := by
    unfold dateTime? at h
    cases hdate : date? cs with
    | none => simp [hdate] at h
    | some found =>
      rw [hdate] at h
      obtain ⟨seconds, hseconds, heq⟩ := map_eq_ok_iff.1 h
      obtain rfl := Option.some.inj heq
      simp only [Calendar.timestamp, Bool.and_eq_true, decide_eq_true_eq] at hseconds
      split_ifs at hseconds with hwithin
      obtain rfl := Except.ok.inj hseconds
      exact hwithin
  have hfirst : Calendar.firstSecond = -62135510400 := by decide
  have hlast : Calendar.lastSecond = 253402300799 := by decide
  have hshort : n.natAbs < 10 ^ 12 := by
    rw [hfirst, hlast] at hbound
    norm_num
    omega
  exact hshort.trans_le (Nat.pow_le_pow_right (by decide) (by decide))

/-- The text stands for the integer: in digits, as a time relative to the clock or as a date. -/
inductive IsInteger (clock : Clock) (cs : List Char) (n : Int) : Prop
  | digits (h : Numeral.read? (dropLineEnd cs) = some n)
  | relative (h : relativeTime? clock cs = .ok (some n))
  | date (h : dateTime? cs = .ok (some n))

theorem isInteger_of_ofNumeral {n : Int} (h : ofNumeral clock cs = .ok (.integer n)) :
    IsInteger clock cs n := by
  unfold ofNumeral at h
  split at h
  · split at h <;> cases h
    exact .digits ‹_›
  · split at h
    · cases h
    · cases h
      exact .relative ‹_›
    · split at h
      · cases h
      · cases h
        exact .date ‹_›
      · split at h
        · split_ifs at h <;> cases h
        · cases h

/-- Of the three ways to stand for an integer a text has one at most, which is the one that is
tried. -/
theorem ofNumeral_of_isInteger {n : Int} (h : IsInteger clock cs n) :
    startsLikeNumeral cs = true ∧ ofNumeral clock cs = .ok (.integer n) := by
  cases h with
  | digits hread =>
    have hsigned := Numeral.isSignedDigits_of_read? hread
    refine ⟨?_, by simp [ofNumeral, hsigned, hread]⟩
    rcases dropLineEnd_cases cs with hsame | hend
    · rw [hsame] at hsigned
      simpa using startsLikeNumeral_append hsigned []
    · rw [hend]
      exact startsLikeNumeral_append hsigned _
  | relative hmoment =>
    exact ⟨startsLikeNumeral_of_relativeTime? hmoment,
      by simp [ofNumeral, isSignedDigits_of_relativeTime? hmoment, hmoment]⟩
  | date hmoment =>
    cases hdate : date? cs with
    | none => simp [dateTime?, hdate] at hmoment
    | some found =>
      obtain ⟨hstart, hsigned, hrelative⟩ := other_of_date? clock hdate
      exact ⟨hstart, by simp [ofNumeral, hsigned, hrelative, hmoment]⟩

/-- On a column without names of severities a value is an integer if its text stands for one. -/
theorem of_eq_integer_iff {n : Int}
    (hcolumn : (column.map Text.lower).any severityColumns.contains = false) :
    of clock column text = .ok (.integer n) ↔ IsInteger clock text.toList n := by
  have hread : of clock column text =
      if startsLikeNumeral text.toList then ofNumeral clock text.toList else .ok .string := by
    rw [of, hcolumn]
    rfl
  rw [hread]
  constructor
  · intro h
    split_ifs at h
    · exact isInteger_of_ofNumeral h
    · cases h
  · intro h
    obtain ⟨hstart, hinteger⟩ := ofNumeral_of_isInteger h
    rw [if_pos hstart, hinteger]

/-- An integer that is too long is a relative time. -/
theorem IsInteger.relative_of_long {n : Int} (h : IsInteger clock cs n)
    (hlong : 10 ^ Numeral.digitLimit ≤ n.natAbs) : relativeTime? clock cs = .ok (some n) := by
  cases h with
  | digits hread => exact absurd (Numeral.natAbs_lt_of_read? hread) (not_lt.2 hlong)
  | relative hmoment => exact hmoment
  | date hmoment => exact absurd (natAbs_lt_of_dateTime? hmoment) (not_lt.2 hlong)

end TypedValue

end ListingFilter
