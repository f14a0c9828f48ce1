import Mathlib.Computability.Language
import Mathlib.Order.CompletePartialOrder
import ListingFilter.Proofs.CalendarShifts
import ListingFilter.Proofs.DateLanguages
/-!
# The order in which a value is read

Signed digits, relative times, dates and decimals with a fraction or an exponent are written in
languages without a common text, so that of the ways to read a value at most one has a result.
Hence the order in which they are tried is of no importance, and a first character that is neither a
sign nor a digit may rule all of them out.
-/

namespace ListingFilter

open Text (isDigit)
open scoped Computability

namespace TypedValue

variable {clock : Clock} {cs : List Char} {c : Char} {column : Option String} {text : String}
  {value : TypedValue} {n : Int} {x : Binary64}

/-! ### Four languages without a common text -/

/-- The languages in which a value is written that is not a string, in the order in which they are
tried. -/
def valueLanguages : List (Language Char) :=
  [signedDigits, relativeTimes, dates, decimals \ signedDigits]

/-- Every text of the language has a last character of the kind, before a line end if it has one. -/
def LastOf (p : Char → Prop) (l : Language Char) : Prop :=
  ∀ cs ∈ l, ∃ front c, p c ∧ dropLineEnd cs = front ++ [c]

section LastOf

variable {l m : Language Char} {p q : Char → Prop}

theorem EndsIn.lastOf_mul_lineEnd (h : EndsIn p l) (hp : ∀ c, p c → c ≠ '\n') :
    LastOf p (l * lineEnd) :=
  fun _ hcs => h _ ((mem_mul_lineEnd (h.mono hp)).1 hcs)

theorem EndsIn.lastOf (h : EndsIn p l) (hp : ∀ c, p c → c ≠ '\n') : LastOf p l := by
  intro cs hcs
  obtain ⟨front, c, hc, rfl⟩ := h cs hcs
  exact ⟨front, c, hc, by rw [dropLineEnd_append_singleton, if_neg (hp c hc)]⟩

/-- Texts that end in characters of different kinds are different. -/
theorem LastOf.disjoint (hl : LastOf p l) (hm : LastOf q m) (hpq : ∀ c, p c → ¬ q c) :
    Disjoint l m := by
  refine Set.disjoint_left.2 fun cs hcs hcs' => ?_
  obtain ⟨front, c, hc, hfront⟩ := hl cs hcs
  obtain ⟨front', c', hc', hfront'⟩ := hm cs hcs'
  obtain ⟨-, hsame⟩ := List.append_inj' (hfront.symm.trans hfront') rfl
  obtain rfl := List.singleton_inj.1 hsame
  exact hpq c hc hc'

end LastOf

theorem not_mem_units (h : isDigit c = true ∨ c = '.') : c ∉ units := by
  intro hc
  rcases h with h | rfl
  · simp [isDigit_of_mem_units hc] at h
  · exact absurd hc (by decide)

theorem lastOf_relativeTimes : LastOf (· ∈ units) relativeTimes :=
  endsIn_relative.lastOf_mul_lineEnd fun _ => ne_lineEnd_of_mem_units

theorem lastOf_decimals : LastOf (fun c => isDigit c = true ∨ c = '.') decimals :=
  endsIn_decimal.lastOf_mul_lineEnd fun _ => ne_lineEnd_of_decimal

theorem disjoint_signedDigits_relativeTimes : Disjoint signedDigits relativeTimes :=
  (endsIn_numeral.lastOf_mul_lineEnd fun _ => ne_lineEnd_of_isDigit).disjoint lastOf_relativeTimes
    fun _ hc => not_mem_units (.inl hc)

theorem disjoint_signedDigits_dates : Disjoint signedDigits dates := by
  refine Set.disjoint_left.2 fun cs hcs hdate => ?_
  obtain ⟨date, second, hdate⟩ := mem_dates.1 hdate
  have hsigned := mem_numeral.1 (mem_signedDigits.1 hcs)
  rw [(other_of_date? (.whole 0) hdate).2.1] at hsigned
  cases hsigned

theorem disjoint_relativeTimes_dates : Disjoint relativeTimes dates :=
  lastOf_relativeTimes.disjoint (endsIn_dates.lastOf fun _ => ne_lineEnd_of_isDigit)
    fun _ hc hdigit => not_mem_units (.inl hdigit) hc

theorem disjoint_relativeTimes_decimals : Disjoint relativeTimes decimals :=
  lastOf_relativeTimes.disjoint lastOf_decimals fun _ hc hdigit => not_mem_units hdigit hc

/-- The hyphen after the year of a date stands where a decimal has a point or an exponent. -/
theorem disjoint_dates_decimals : Disjoint dates decimals := by
  refine Set.disjoint_left.2 fun cs hdate hcs => ?_
  obtain ⟨front, c, hc, hfront⟩ := endsIn_dates cs hdate
  have hsame : dropLineEnd cs = cs := by
    rw [hfront, dropLineEnd_append_singleton, if_neg (ne_lineEnd_of_isDigit hc)]
  obtain ⟨date, second, hdate⟩ := mem_dates.1 hdate
  obtain ⟨year, rest, rfl, hlength, hyear, -⟩ := shape_of_date? hdate
  obtain ⟨_, hmark, hwhole, hpoint, hpower, hparts⟩ := mem_decimals.1 hcs
  obtain ⟨-, hdigits⟩ := mem_digits.1 hwhole
  rw [hsame] at hparts
  rcases mem_sign.1 hmark with rfl | rfl | rfl
  · have hmarks := head_of_parts hpoint hpower
    have hdrop := congrArg (List.dropWhile isDigit) hparts
    rw [(takeWhile_append_cons hyear (by decide) rest).2, List.nil_append,
      List.dropWhile_append_of_pos hdigits,
      (takeWhile_eq_nil_of_head fun c hc => isDigit_of_mark (hmarks c hc)).2] at hdrop
    exact absurd (hmarks '-' (by rw [← hdrop]; rfl)) (by decide)
  all_goals
    obtain ⟨first, others, rfl⟩ := List.exists_cons_of_length_eq_add_one hlength
    obtain ⟨rfl, -⟩ := List.cons.inj hparts
    exact absurd (hyear _ List.mem_cons_self) (by decide)

theorem pairwise_disjoint_valueLanguages : valueLanguages.Pairwise Disjoint := by
  simp only [valueLanguages, List.pairwise_cons, List.mem_cons, List.not_mem_nil, or_false,
    forall_eq_or_imp, forall_eq, List.Pairwise.nil, and_true, false_imp_iff, implies_true]
  exact ⟨⟨disjoint_signedDigits_relativeTimes, disjoint_signedDigits_dates,
      disjoint_sdiff_self_right⟩,
    ⟨disjoint_relativeTimes_dates, disjoint_relativeTimes_decimals.mono_right sdiff_le⟩,
    disjoint_dates_decimals.mono_right sdiff_le⟩

/-! ### The first character -/

theorem startsLikeNumeral_of_numeral {l : Language Char} (h : cs ∈ numeral * l) :
    startsLikeNumeral cs = true := by
  obtain ⟨front, hfront, rest, -, rfl⟩ := mem_mul_iff.1 h
  exact startsLikeNumeral_append (mem_numeral.1 hfront) rest

/-- A value that is not a string starts with a digit, or with a sign and a digit. -/
theorem startsLikeNumeral_of_mem {l : Language Char} (hl : l ∈ valueLanguages) (h : cs ∈ l) :
    startsLikeNumeral cs = true := by
  simp only [valueLanguages, List.mem_cons, List.not_mem_nil, or_false] at hl
  rcases hl with rfl | rfl | rfl | rfl
  · exact startsLikeNumeral_of_numeral h
  · rw [relativeTimes, mul_assoc] at h
    exact startsLikeNumeral_of_numeral h
  · obtain ⟨date, second, hdate⟩ := mem_dates.1 h
    exact (other_of_date? (.whole 0) hdate).1
  · have hdecimal : cs ∈ decimals := h.1
    rw [decimals, mul_assoc, mul_assoc] at hdecimal
    exact startsLikeNumeral_of_numeral hdecimal

/-! ### Four readings of which one has a result -/

/-- What a value in signed digits is read as. A string if the digits are too many. -/
def ofSignedDigits (cs : List Char) : TypedValue :=
  match Numeral.read? (dropLineEnd cs) with
  | some n => .integer n
  | none => .string

/-- The four ways to read a value, each of which has a result for texts of its language only. -/
def readings (clock : Clock) (cs : List Char) : List (Except Fault (Option TypedValue)) :=
  [.ok (if Numeral.isSignedDigits (dropLineEnd cs) then some (ofSignedDigits cs) else none),
    (relativeTime? clock cs).map (·.map .integer),
    (dateTime? cs).map (·.map .integer),
    .ok (if Numeral.isSignedDigits (dropLineEnd cs) then none
      else (decimal? cs).map fun x => if x.isFinite then .double x else .string)]

/-- The result of the first test that has one. A string is what remains. -/
def firstOf : List (Except Fault (Option TypedValue)) → Except Fault TypedValue
  | [] => .ok .string
  | .error fault :: _ => .error fault
  | .ok (some value) :: _ => .ok value
  | .ok none :: tests => firstOf tests

theorem ofNumeral_eq_firstOf (clock : Clock) (cs : List Char) :
    ofNumeral clock cs = firstOf (readings clock cs) := by
  unfold ofNumeral readings ofSignedDigits
  split_ifs with hsigned
  · simp only [firstOf]
    cases Numeral.read? (dropLineEnd cs) <;> rfl
  · cases relativeTime? clock cs with
    | error fault => rfl
    | ok moment =>
      cases moment with
      | some n => rfl
      | none =>
        cases dateTime? cs with
        | error fault => rfl
        | ok moment =>
          cases moment with
          | some n => rfl
          | none => cases decimal? cs <;> rfl

theorem readings_none_or_mem (clock : Clock) (cs : List Char) :
    List.Forall₂ (fun reading l => reading = .ok none ∨ cs ∈ l) (readings clock cs)
      valueLanguages := by
  refine .cons ?_ (.cons ?_ (.cons ?_ (.cons ?_ .nil)))
  · by_cases hcs : cs ∈ signedDigits
    · exact .inr hcs
    · exact .inl (by rw [if_neg (isSignedDigits_iff.not.2 hcs)])
  · by_cases hcs : cs ∈ relativeTimes
    · exact .inr hcs
    · exact .inl (by rw [relativeTime?_of_not_mem hcs]; rfl)
  · by_cases hcs : cs ∈ dates
    · exact .inr hcs
    · have hnone : date? cs = none :=
        Option.eq_none_iff_forall_ne_some.2 fun found hfound => hcs (mem_dates.2 ⟨_, _, hfound⟩)
      exact .inl (by rw [dateTime?, hnone]; rfl)
  · by_cases hcs : cs ∈ decimals \ signedDigits
    · exact .inr hcs
    · refine .inl ?_
      split_ifs with hdigits
      · rfl
      · have hnone : decimal? cs = none := by
          refine Option.eq_none_iff_forall_ne_some.2 fun x hx => hcs ?_
          refine ⟨?_, isSignedDigits_iff.not.1 hdigits⟩
          obtain ⟨decimal, hspells, -⟩ := decimal?_eq_some_iff.1 hx
          exact mem_decimals.2 ⟨decimal, hspells⟩
        rw [hnone]
        rfl

/-- At most one of the four readings has a result. -/
theorem pairwise_readings (clock : Clock) (cs : List Char) :
    (readings clock cs).Pairwise fun a b => a = .ok none ∨ b = .ok none := by
  have hreadings := readings_none_or_mem clock cs
  have hlength := hreadings.length_eq
  refine List.pairwise_iff_getElem.2 fun i j hi hj hij => ?_
  rcases hreadings.get hi (hlength ▸ hi) with hnone | hmem
  · exact .inl hnone
  · rcases hreadings.get hj (hlength ▸ hj) with hnone | hmem'
    · exact .inr hnone
    · have hdisjoint := List.pairwise_iff_getElem.1 pairwise_disjoint_valueLanguages i j
        (hlength ▸ hi) (hlength ▸ hj) hij
      exact absurd hmem' (Set.disjoint_left.1 hdisjoint hmem)

section FirstOf

variable {tests tests' : List (Except Fault (Option TypedValue))}

/-- If at most one test has a result, the order of the tests is of no importance. -/
theorem firstOf_perm (h : tests.Pairwise fun a b => a = .ok none ∨ b = .ok none)
    (hperm : tests.Perm tests') : firstOf tests = firstOf tests' := by
  induction hperm with
  | nil => rfl
  | cons test _ ih =>
    rcases test with fault | _ | value
    · rfl
    · exact ih h.of_cons
    · rfl
  | swap test test' tests =>
    rcases (List.pairwise_cons.1 h).1 test List.mem_cons_self with rfl | rfl
    · rcases test with fault | _ | value <;> rfl
    · rcases test' with fault | _ | value <;> rfl
  | trans hperm _ ih ih' =>
    exact (ih h).trans (ih' ((hperm.pairwise_iff fun h => h.symm).1 h))

theorem firstOf_eq_ok_iff (h : tests.Pairwise fun a b => a = .ok none ∨ b = .ok none)
    (hvalue : value ≠ .string) : firstOf tests = .ok value ↔ .ok (some value) ∈ tests := by
  induction tests with
  | nil => simp [firstOf, hvalue.symm]
  | cons test tests ih =>
    obtain ⟨hfirst, hrest⟩ := List.pairwise_cons.1 h
    have hother : test ≠ .ok none → .ok (some value) ∉ tests := by
      intro htest hmem
      rcases hfirst _ hmem with hnone | hnone
      · exact htest hnone
      · cases hnone
    rcases test with fault | _ | found
    · simp [firstOf, hother]
    · simp [firstOf, ih hrest]
    · simp [firstOf, hother, eq_comm]

theorem firstOf_of_none (h : ∀ test ∈ tests, test = .ok none) : firstOf tests = .ok .string := by
  induction tests with
  | nil => rfl
  | cons test tests ih =>
    obtain ⟨rfl, hrest⟩ := List.forall_mem_cons.1 h
    exact ih hrest

end FirstOf

/-! ### What a value denotes -/

/-- The text denotes the integer: in digits, as a time relative to the clock or as a date. -/
inductive DenotesInteger (clock : Clock) (cs : List Char) : Int → Prop
  | digits : cs ∈ signedDigits → cs.countP isDigit ≤ Numeral.digitLimit →
      DenotesInteger clock cs (integerOf cs)
  | relative {unit : Char} {n : Int} : cs ∈ relativeTimes →
      cs.countP isDigit ≤ Numeral.digitLimit → unit ∈ (dropLineEnd cs).getLast? →
      IsShifted clock (integerOf cs) unit n → DenotesInteger clock cs n
  | date {date : Calendar.Date} {second : Nat} : IsDate cs date second → 1 ≤ date.year →
      date.isValid = true →
      DenotesInteger clock cs (date.number * Calendar.secondsPerDay + second)

/-- The text denotes the number: it has a fraction or an exponent, and the number is finite. -/
inductive DenotesDouble (cs : List Char) : Binary64 → Prop
  | decimal {decimal : DecimalNumeral} : cs ∉ signedDigits → Spells cs decimal →
      (Binary64.ofNumeral decimal).isFinite = true → DenotesDouble cs (.ofNumeral decimal)

theorem map_integer_eq_iff {moment : Except Fault (Option Int)} :
    moment.map (·.map TypedValue.integer) = .ok (some (.integer n)) ↔ moment = .ok (some n) := by
  rcases moment with fault | _ | m <;> simp [Except.map]

theorem ofSignedDigits_eq_integer_iff :
    ofSignedDigits cs = .integer n ↔ Numeral.read? (dropLineEnd cs) = some n := by
  unfold ofSignedDigits
  cases Numeral.read? (dropLineEnd cs) <;> simp

theorem mem_readings_integer :
    .ok (some (.integer n)) ∈ readings clock cs ↔ IsInteger clock cs n := by
  simp only [readings, List.mem_cons, List.not_mem_nil, or_false]
  constructor
  · rintro (h | h | h | h)
    · split_ifs at h
      · exact .digits (ofSignedDigits_eq_integer_iff.1 (Option.some.inj (Except.ok.inj h)).symm)
      · cases Except.ok.inj h
    · exact .relative (map_integer_eq_iff.1 h.symm)
    · exact .date (map_integer_eq_iff.1 h.symm)
    · split_ifs at h
      · cases Except.ok.inj h
      · obtain ⟨x, -, hx⟩ := Option.map_eq_some_iff.1 (Except.ok.inj h).symm
        split_ifs at hx
  · rintro (hread | hmoment | hmoment)
    · rw [if_pos (Numeral.isSignedDigits_of_read? hread), ofSignedDigits_eq_integer_iff.2 hread]
      exact .inl rfl
    · exact .inr (.inl (map_integer_eq_iff.2 hmoment).symm)
    · exact .inr (.inr (.inl (map_integer_eq_iff.2 hmoment).symm))

theorem mem_readings_double (clock : Clock) :
    .ok (some (.double x)) ∈ readings clock cs ↔ DenotesDouble cs x := by
  have hmoment : ∀ moment : Except Fault (Option Int),
      moment.map (·.map TypedValue.integer) ≠ .ok (some (.double x)) := by
    rintro (fault | _ | n) <;> simp [Except.map]
  simp only [readings, List.mem_cons, List.not_mem_nil, or_false]
  constructor
  · rintro (h | h | h | h)
    · split_ifs at h
      · unfold ofSignedDigits at h
        split at h <;> cases Except.ok.inj h
      · cases Except.ok.inj h
    · exact absurd h.symm (hmoment _)
    · exact absurd h.symm (hmoment _)
    · split_ifs at h with hdigits
      · cases Except.ok.inj h
      · obtain ⟨y, hy, hvalue⟩ := Option.map_eq_some_iff.1 (Except.ok.inj h).symm
        split_ifs at hvalue with hfinite
        obtain rfl := TypedValue.double.inj hvalue
        obtain ⟨decimal, hspells, rfl⟩ := decimal?_eq_some_iff.1 hy
        exact .decimal (isSignedDigits_iff.not.1 hdigits) hspells hfinite
  · rintro ⟨hdigits, hspells, hfinite⟩
    rw [if_neg (isSignedDigits_iff.not.2 hdigits), if_neg (isSignedDigits_iff.not.2 hdigits),
      decimal?_eq_some_iff.2 ⟨_, hspells, rfl⟩]
    simp [hfinite]

/-- A date before the calendar has no moment, and then there is no result. -/
theorem isInteger_iff_denotesInteger (h : firstOf (readings clock cs) = .ok value) :
    IsInteger clock cs n ↔ DenotesInteger clock cs n := by
  constructor
  · rintro (hread | hmoment | hmoment)
    · obtain ⟨hcs, hlimit, rfl⟩ := read?_dropLineEnd_iff.1 hread
      exact .digits hcs hlimit
    · obtain ⟨hcs, hlimit, unit, hunit, hshift⟩ := relativeTime?_eq_ok_some_iff.1 hmoment
      exact .relative hcs hlimit hunit hshift
    · unfold dateTime? at hmoment
      split at hmoment
      · cases hmoment
      · rename_i date second hdate
        obtain ⟨seconds, hseconds, heq⟩ := map_eq_ok_iff.1 hmoment
        obtain rfl := Option.some.inj heq
        obtain ⟨hdate, hyear, hvalid⟩ := date?_eq_some_iff.1 hdate
        rw [(Calendar.timestamp_eq_ok_iff.1 hseconds).2]
        exact .date hdate hyear hvalid
  · rintro (⟨hcs, hlimit⟩ | ⟨hcs, hlimit, hunit, hshift⟩ | ⟨hdate, hyear, hvalid⟩)
    · exact .digits (read?_dropLineEnd_iff.2 ⟨hcs, hlimit, rfl⟩)
    · exact .relative (relativeTime?_eq_ok_some_iff.2 ⟨hcs, hlimit, _, hunit, hshift⟩)
    · have hread := date?_eq_some_iff.2 ⟨hdate, hyear, hvalid⟩
      obtain ⟨-, hsigned, hrelative⟩ := other_of_date? clock hread
      refine .date ?_
      rw [← ofNumeral_eq_firstOf] at h
      simp only [ofNumeral, hsigned, hrelative, dateTime?, hread] at h ⊢
      cases hmoment : Calendar.timestamp _ _ with
      | error fault =>
        rw [hmoment] at h
        cases h
      | ok seconds =>
        rw [(Calendar.timestamp_eq_ok_iff.1 hmoment).2]
        rfl

/-- The test of the first character rules out no value that would be read. -/
theorem of_eq_firstOf
    (hname : (column.map Text.lower).any severityColumns.contains = true → severity? text = none) :
    of clock column text = firstOf (readings clock text.toList) := by
  have hnone : (if (column.map Text.lower).any severityColumns.contains then severity? text
      else none) = none := by
    split_ifs with hcolumn
    · exact hname hcolumn
    · rfl
  rw [of, hnone]
  dsimp only
  split_ifs with hstart
  · exact ofNumeral_eq_firstOf clock text.toList
  · have hreadings := readings_none_or_mem clock text.toList
    refine (firstOf_of_none fun reading hreading => ?_).symm
    obtain ⟨i, hi, rfl⟩ := List.mem_iff_getElem.1 hreading
    rcases hreadings.get hi (hreadings.length_eq ▸ hi) with hnone | hmem
    · exact hnone
    · exact absurd (startsLikeNumeral_of_mem (List.getElem_mem _) hmem) hstart

/-- A value that is no name of a severity is typed by the languages that its text is in. -/
theorem of_eq_ok_of_languages
    (hname : (column.map Text.lower).any severityColumns.contains = true → severity? text = none)
    (h : of clock column text = .ok value) :
    (∀ n, value = .integer n ↔ DenotesInteger clock text.toList n) ∧
      (∀ x, value = .double x ↔ DenotesDouble text.toList x) ∧
      (value = .string ↔
        (∀ n, ¬ DenotesInteger clock text.toList n) ∧ ∀ x, ¬ DenotesDouble text.toList x) ∧
      (value.type ≠ .integer → value.integerValue = 0) ∧
      (value.type ≠ .double → value.doubleValue = .zero) ∧
      valueLanguages.Pairwise Disjoint ∧
      (∀ l ∈ valueLanguages, text.toList ∈ l → startsLikeNumeral text.toList = true) ∧
      ∀ tests, tests.Perm (readings clock text.toList) → firstOf tests = .ok value := by
  rw [of_eq_firstOf hname] at h
  have hpairwise := pairwise_readings clock text.toList
  have hinteger : ∀ n, value = .integer n ↔ DenotesInteger clock text.toList n := by
    intro n
    rw [← isInteger_iff_denotesInteger h, ← mem_readings_integer,
      ← firstOf_eq_ok_iff hpairwise (by simp), h, Except.ok.injEq]
  have hdouble : ∀ x, value = .double x ↔ DenotesDouble text.toList x := by
    intro x
    rw [← mem_readings_double clock, ← firstOf_eq_ok_iff hpairwise (by simp), h,
      Except.ok.injEq]
  refine ⟨hinteger, hdouble, ?_, ?_, ?_, pairwise_disjoint_valueLanguages,
    fun l hl => startsLikeNumeral_of_mem hl, fun tests hperm => ?_⟩
  · simp only [← hinteger, ← hdouble]
    cases value <;> simp
  · cases value <;> simp [type, integerValue]
  · cases value <;> simp [type, doubleValue]
  · rw [← firstOf_perm hpairwise hperm.symm, h]

/-- Three days before the clock, with a line end, on a column that has names of severities. -/
theorem of_eq_ok_of_languages_days :
    (severity? "-3d\n" = none ∧
      of (.whole 1000000) (some "Severity") "-3d\n" = .ok (.integer 740800)) ∧
      DenotesInteger (.whole 1000000) "-3d\n".toList 740800 ∧
      (∀ x, ¬ DenotesDouble "-3d\n".toList x) ∧
      firstOf (readings (.whole 1000000) "-3d\n".toList).reverse = .ok (.integer 740800) := by
  have hname : severity? "-3d\n" = none := by decide
  have hvalue : of (.whole 1000000) (some "Severity") "-3d\n" = .ok (.integer 740800) :=
    eq_ok_of_toOption (by decide)
  obtain ⟨hinteger, hdouble, -, -, -, -, -, horder⟩ :=
    of_eq_ok_of_languages (fun _ => hname) hvalue
  refine ⟨⟨hname, hvalue⟩, (hinteger 740800).1 rfl, fun x hx => ?_,
    horder _ (List.reverse_perm _)⟩
  cases (hdouble x).2 hx

end TypedValue

end ListingFilter
