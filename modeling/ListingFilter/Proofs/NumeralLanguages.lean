import Mathlib.Computability.Language
import Mathlib.Data.List.TakeWhile
import ListingFilter.Proofs.ValueFailures
/-!
# The languages of numerals

Integers, relative times and decimals are written in three regular languages over classes of
characters. A reader of one of them accepts exactly the texts of its language, and what it reads is
told by the text: the integer by its sign and its digits, the decimal by the parts that the language
puts it together from.
-/

namespace ListingFilter

open Text (isDigit)
open scoped Computability

namespace TypedValue

variable {cs ds front rest : List Char} {c : Char}

/-! ### Classes of characters -/

/-- The texts of one character of the kind. -/
def oneOf (p : Char → Prop) : Language Char := {cs | ∃ c, p c ∧ cs = [c]}

/-- The texts of a language, and the empty text. -/
def optional (l : Language Char) : Language Char := 1 + l

theorem mem_optional {l : Language Char} : cs ∈ optional l ↔ cs = [] ∨ cs ∈ l := by
  rw [optional, Language.mem_add, Language.mem_one]

theorem mem_mul_iff {l m : Language Char} :
    cs ∈ l * m ↔ ∃ front ∈ l, ∃ rest ∈ m, cs = front ++ rest := by
  simp only [Language.mem_mul, eq_comm]

theorem mem_oneOf_mul {p : Char → Prop} {l : Language Char} :
    cs ∈ oneOf p * l ↔ ∃ c rest, p c ∧ rest ∈ l ∧ cs = c :: rest := by
  rw [mem_mul_iff]
  constructor
  · rintro ⟨_, ⟨c, hc, rfl⟩, rest, hrest, rfl⟩
    exact ⟨c, rest, hc, hrest, rfl⟩
  · rintro ⟨c, rest, hc, hrest, rfl⟩
    exact ⟨[c], ⟨c, hc, rfl⟩, rest, hrest, rfl⟩

/-- A decimal digit of some script. -/
def digit : Language Char := oneOf (isDigit · = true)

def digits : Language Char := digit * digit∗

def sign : Language Char := optional (oneOf (· ∈ ['+', '-']))

/-- One line end may stand after a numeral. -/
def lineEnd : Language Char := optional (oneOf (· = '\n'))

theorem mem_kstar_digit : ds ∈ digit∗ ↔ ∀ c ∈ ds, isDigit c = true := by
  rw [Language.mem_kstar]
  constructor
  · rintro ⟨pieces, rfl, hpieces⟩ c hc
    obtain ⟨piece, hpiece, hmem⟩ := List.mem_flatten.1 hc
    obtain ⟨d, hd, rfl⟩ := hpieces piece hpiece
    rwa [List.mem_singleton.1 hmem]
  · intro hds
    refine ⟨ds.map fun c => [c], by simp [← List.flatMap_def], fun piece hpiece => ?_⟩
    obtain ⟨c, hc, rfl⟩ := List.mem_map.1 hpiece
    exact ⟨c, hds c hc, rfl⟩

theorem mem_digits : ds ∈ digits ↔ ds ≠ [] ∧ ∀ c ∈ ds, isDigit c = true := by
  rw [digits, digit, mem_oneOf_mul]
  constructor
  · rintro ⟨c, others, hc, hothers, rfl⟩
    exact ⟨by simp, List.forall_mem_cons.2 ⟨hc, mem_kstar_digit.1 hothers⟩⟩
  · rintro ⟨hne, hds⟩
    obtain ⟨c, others, rfl⟩ := List.exists_cons_of_ne_nil hne
    obtain ⟨hc, hothers⟩ := List.forall_mem_cons.1 hds
    exact ⟨c, others, hc, mem_kstar_digit.2 hothers, rfl⟩

theorem mem_sign : cs ∈ sign ↔ cs = [] ∨ cs = ['+'] ∨ cs = ['-'] := by
  rw [sign, mem_optional]
  refine or_congr_right ⟨?_, ?_⟩
  · rintro ⟨c, hc, rfl⟩
    simpa using hc
  · rintro (rfl | rfl)
    · exact ⟨'+', by simp, rfl⟩
    · exact ⟨'-', by simp, rfl⟩

theorem mem_lineEnd : cs ∈ lineEnd ↔ cs = [] ∨ cs = ['\n'] := by
  rw [lineEnd, mem_optional]
  exact or_congr_right ⟨fun ⟨c, hc, hcs⟩ => hc ▸ hcs, fun hcs => ⟨'\n', rfl, hcs⟩⟩

/-! ### Last characters -/

/-- Every text of the language ends in a character of the kind. -/
def EndsIn (p : Char → Prop) (l : Language Char) : Prop :=
  ∀ cs ∈ l, ∃ front c, p c ∧ cs = front ++ [c]

section EndsIn

variable {p q : Char → Prop} {l m : Language Char}

theorem endsIn_oneOf (p : Char → Prop) : EndsIn p (oneOf p) := by
  rintro _ ⟨c, hc, rfl⟩
  exact ⟨[], c, hc, rfl⟩

theorem EndsIn.mono (h : EndsIn p l) (hpq : ∀ c, p c → q c) : EndsIn q l := by
  intro cs hcs
  obtain ⟨front, c, hc, rfl⟩ := h cs hcs
  exact ⟨front, c, hpq c hc, rfl⟩

theorem EndsIn.mul (l : Language Char) (h : EndsIn p m) : EndsIn p (l * m) := by
  intro cs hcs
  obtain ⟨front, -, rest, hrest, rfl⟩ := mem_mul_iff.1 hcs
  obtain ⟨rest, c, hc, rfl⟩ := h rest hrest
  exact ⟨front ++ rest, c, hc, (List.append_assoc ..).symm⟩

theorem EndsIn.add (hl : EndsIn p l) (hm : EndsIn p m) : EndsIn p (l + m) := by
  intro cs hcs
  rcases (Language.mem_add _ _ _).1 hcs with hcs | hcs
  · exact hl cs hcs
  · exact hm cs hcs

theorem EndsIn.mul_optional (hl : EndsIn p l) (hm : EndsIn p m) : EndsIn p (l * optional m) := by
  intro cs hcs
  obtain ⟨front, hfront, rest, hrest, rfl⟩ := mem_mul_iff.1 hcs
  rcases mem_optional.1 hrest with rfl | hrest
  · rw [List.append_nil]
    exact hl front hfront
  · exact EndsIn.mul l hm _ (mem_mul_iff.2 ⟨front, hfront, rest, hrest, rfl⟩)

theorem endsIn_digits : EndsIn (isDigit · = true) digits := by
  intro ds hds
  obtain ⟨hne, hdigits⟩ := mem_digits.1 hds
  exact ⟨ds.dropLast, ds.getLast hne, hdigits _ (List.getLast_mem hne),
    (List.dropLast_append_getLast hne).symm⟩

theorem ne_lineEnd_of_isDigit (h : isDigit c = true) : c ≠ '\n' := by
  rintro rfl
  exact absurd h (by decide)

theorem dropLineEnd_append_singleton (front : List Char) (c : Char) :
    dropLineEnd (front ++ [c]) = if c = '\n' then front else front ++ [c] := by
  by_cases hc : c = '\n' <;> simp [dropLineEnd, hc]

/-- A line end that may be written is one that is dropped. -/
theorem mem_mul_lineEnd (h : EndsIn (· ≠ '\n') l) : cs ∈ l * lineEnd ↔ dropLineEnd cs ∈ l := by
  rw [mem_mul_iff]
  constructor
  · rintro ⟨front, hfront, rest, hrest, rfl⟩
    obtain ⟨init, c, hc, rfl⟩ := h front hfront
    rcases mem_lineEnd.1 hrest with rfl | rfl
    · rwa [List.append_nil, dropLineEnd_append_singleton, if_neg hc]
    · rwa [dropLineEnd_append_singleton, if_pos rfl]
  · intro hcs
    rcases dropLineEnd_cases cs with hsame | hend
    · exact ⟨cs, hsame ▸ hcs, [], mem_lineEnd.2 (.inl rfl), (List.append_nil cs).symm⟩
    · exact ⟨dropLineEnd cs, hcs, ['\n'], mem_lineEnd.2 (.inr rfl), hend⟩

end EndsIn

/-! ### Integers -/

/-- An optional sign and digits. -/
def numeral : Language Char := sign * digits

def signedDigits : Language Char := numeral * lineEnd

/-- The integer that the digits of the text spell, after its sign. -/
def integerOf (cs : List Char) : Int :=
  Numeral.signed (cs.head? == some '-') (Numeral.value (cs.filter isDigit))

section Numeral

variable {mark : List Char}

theorem splitSign_written (hmark : mark ∈ sign) (hds : ds ∈ digits) (rest : List Char) :
    Numeral.splitSign (mark ++ (ds ++ rest)) = (mark == ['-'], ds ++ rest) := by
  rcases mem_sign.1 hmark with rfl | rfl | rfl
  · obtain ⟨hne, hdigits⟩ := mem_digits.1 hds
    obtain ⟨first, others, rfl⟩ := List.exists_cons_of_ne_nil hne
    have hfirst : isDigit first = true := hdigits first List.mem_cons_self
    rw [List.nil_append, List.cons_append]
    unfold Numeral.splitSign
    split
    · rename_i heq
      obtain ⟨rfl, -⟩ := List.cons.inj heq
      exact absurd hfirst (by decide)
    · rename_i heq
      obtain ⟨rfl, -⟩ := List.cons.inj heq
      exact absurd hfirst (by decide)
    · rfl
  · rfl
  · rfl

theorem splitSign_mark (cs : List Char) :
    ∃ mark ∈ sign, cs = mark ++ (Numeral.splitSign cs).2 ∧
      (Numeral.splitSign cs).1 = (mark == ['-']) := by
  unfold Numeral.splitSign
  split
  · exact ⟨['-'], by simp [mem_sign], rfl, rfl⟩
  · exact ⟨['+'], by simp [mem_sign], rfl, rfl⟩
  · exact ⟨[], by simp [mem_sign], rfl, rfl⟩

theorem splitSign_numeral (hmark : mark ∈ sign) (hds : ds ∈ digits) :
    Numeral.splitSign (mark ++ ds) = (mark == ['-'], ds) := by
  simpa using splitSign_written hmark hds []

theorem mem_numeral : cs ∈ numeral ↔ Numeral.isSignedDigits cs = true := by
  have hsplit : Numeral.isSignedDigits cs = true ↔ (Numeral.splitSign cs).2 ∈ digits := by
    simp [Numeral.isSignedDigits, mem_digits]
  rw [hsplit, numeral, mem_mul_iff]
  constructor
  · rintro ⟨mark, hmark, ds, hds, rfl⟩
    rwa [splitSign_numeral hmark hds]
  · intro hds
    obtain ⟨mark, hmark, hcs, -⟩ := splitSign_mark cs
    exact ⟨mark, hmark, _, hds, hcs⟩

/-- What stands after the digits says nothing about the integer if no digit is in it. -/
theorem integerOf_written (hmark : mark ∈ sign) (hds : ds ∈ digits)
    (hrest : ∀ c ∈ rest, isDigit c = false) :
    integerOf (mark ++ (ds ++ rest)) = Numeral.signed (mark == ['-']) (Numeral.value ds) ∧
      (mark ++ (ds ++ rest)).countP isDigit = ds.length := by
  obtain ⟨hne, hdigits⟩ := mem_digits.1 hds
  have hmarks : mark.filter isDigit = [] := by
    rcases mem_sign.1 hmark with rfl | rfl | rfl <;> decide
  have hfilter : (mark ++ (ds ++ rest)).filter isDigit = ds := by
    rw [List.filter_append, List.filter_append, hmarks, List.filter_eq_self.2 hdigits,
      List.filter_eq_nil_iff.2 fun c hc => by simp [hrest c hc], List.nil_append, List.append_nil]
  have hhead : ((mark ++ (ds ++ rest)).head? == some '-') = (mark == ['-']) := by
    obtain ⟨first, others, rfl⟩ := List.exists_cons_of_ne_nil hne
    have hfirst : first ≠ '-' := by
      rintro rfl
      exact absurd (hdigits '-' List.mem_cons_self) (by decide)
    rcases mem_sign.1 hmark with rfl | rfl | rfl
    · simp [beq_false_of_ne hfirst]
    · rfl
    · rfl
  rw [integerOf, hfilter, hhead, List.countP_eq_length_filter, hfilter]
  exact ⟨rfl, rfl⟩

theorem integerOf_numeral (hmark : mark ∈ sign) (hds : ds ∈ digits) :
    integerOf (mark ++ ds) = Numeral.signed (mark == ['-']) (Numeral.value ds) ∧
      (mark ++ ds).countP isDigit = ds.length := by
  have hnone : ∀ c ∈ ([] : List Char), isDigit c = false := by simp
  simpa using integerOf_written hmark hds hnone

/-- An integer is read if it is within the limit of digits. -/
theorem read?_eq_some_iff {n : Int} :
    Numeral.read? cs = some n ↔
      cs ∈ numeral ∧ cs.countP isDigit ≤ Numeral.digitLimit ∧ integerOf cs = n := by
  by_cases hcs : cs ∈ numeral
  · obtain ⟨mark, hmark, ds, hds, rfl⟩ := mem_mul_iff.1 hcs
    obtain ⟨hinteger, hcount⟩ := integerOf_numeral hmark hds
    obtain ⟨hne, hdigits⟩ := mem_digits.1 hds
    rw [Numeral.read?, splitSign_numeral hmark hds, hinteger, hcount]
    simp [hne, hcs, List.all_eq_true.2 hdigits]
  · refine iff_of_false (fun h => hcs ?_) fun h => hcs h.1
    exact mem_numeral.2 (Numeral.isSignedDigits_of_read? h)

theorem endsIn_numeral : EndsIn (isDigit · = true) numeral := endsIn_digits.mul sign

theorem mem_signedDigits : cs ∈ signedDigits ↔ dropLineEnd cs ∈ numeral :=
  mem_mul_lineEnd (endsIn_numeral.mono fun _ => ne_lineEnd_of_isDigit)

theorem isSignedDigits_iff :
    Numeral.isSignedDigits (dropLineEnd cs) = true ↔ cs ∈ signedDigits := by
  rw [mem_signedDigits, mem_numeral]

/-- A line end has no part in the integer. -/
theorem integerOf_dropLineEnd (cs : List Char) :
    integerOf (dropLineEnd cs) = integerOf cs ∧
      (dropLineEnd cs).countP isDigit = cs.countP isDigit := by
  rcases dropLineEnd_cases cs with hsame | hline
  · rw [hsame]
    exact ⟨rfl, rfl⟩
  · generalize dropLineEnd cs = front at hline
    subst hline
    cases front with
    | nil => decide
    | cons first others =>
      have hfilter : (first :: others ++ ['\n']).filter isDigit =
          (first :: others).filter isDigit := by
        rw [List.filter_append, show ['\n'].filter isDigit = [] by decide, List.append_nil]
      rw [List.countP_eq_length_filter, List.countP_eq_length_filter, integerOf, integerOf, hfilter]
      exact ⟨rfl, rfl⟩

/-- The integer of a text is read if its digits are within the limit. -/
theorem read?_dropLineEnd_iff {n : Int} :
    Numeral.read? (dropLineEnd cs) = some n ↔
      cs ∈ signedDigits ∧ cs.countP isDigit ≤ Numeral.digitLimit ∧ integerOf cs = n := by
  rw [read?_eq_some_iff, mem_signedDigits, (integerOf_dropLineEnd cs).1,
    (integerOf_dropLineEnd cs).2]

end Numeral

/-! ### Relative times -/

/-- The seconds of the units of fixed length. -/
def secondsOfUnits : List (Char × Int) :=
  [('s', 1), ('m', 60), ('h', 3600), ('d', 86400), ('w', 604800)]

/-- The months of the units of the calendar. -/
def monthsOfUnits : List (Char × Int) := [('M', 1), ('y', 12)]

def units : List Char := (secondsOfUnits ++ monthsOfUnits).map (·.1)

/-- A relative time: an integer and a unit. -/
def relativeTimes : Language Char := numeral * oneOf (· ∈ units) * lineEnd

/-- The moment that lies `amount` units after the clock. A shift by months that leaves the calendar
leads to none. -/
inductive IsShifted (clock : Clock) (amount : Int) (unit : Char) : Int → Prop
  | seconds {seconds now : Int} : (unit, seconds) ∈ secondsOfUnits →
      clock.truncated = .ok now → IsShifted clock amount unit (now + amount * seconds)
  | months {months moment : Int} : (unit, months) ∈ monthsOfUnits →
      addMonths clock (amount * months) = .ok moment → IsShifted clock amount unit moment

section Relative

variable {clock : Clock} {unit : Char} {amount n : Int}

theorem unitSeconds?_eq_some_iff {seconds : Int} :
    unitSeconds? unit = some seconds ↔ (unit, seconds) ∈ secondsOfUnits := by
  unfold unitSeconds?
  split_ifs <;> simp_all [secondsOfUnits, eq_comm]

theorem unitMonths?_eq_some_iff {months : Int} :
    unitMonths? unit = some months ↔ (unit, months) ∈ monthsOfUnits := by
  unfold unitMonths?
  split_ifs <;> simp_all [monthsOfUnits, eq_comm]

theorem shiftBy?_eq_ok_some_iff :
    shiftBy? clock amount unit = .ok (some n) ↔ IsShifted clock amount unit n := by
  constructor
  · intro h
    unfold shiftBy? at h
    split at h
    · rename_i months hmonths
      cases hmoment : addMonths clock (amount * months) with
      | error fault => simp [hmoment, Except.toOption] at h
      | ok moment =>
        obtain rfl : moment = n := by simpa [hmoment, Except.toOption] using h
        exact .months (unitMonths?_eq_some_iff.1 hmonths) hmoment
    · rename_i seconds hnone hseconds
      split at h
      · rename_i now hnow
        obtain rfl := Option.some.inj (Except.ok.inj h)
        exact .seconds (unitSeconds?_eq_some_iff.1 hseconds) hnow
      · cases h
    · cases h
  · intro h
    cases h with
    | @seconds seconds now hunit hnow =>
      have hnone : unitMonths? unit = none := by
        simp only [secondsOfUnits, List.mem_cons, Prod.mk.injEq, List.not_mem_nil,
          or_false] at hunit
        rcases hunit with ⟨rfl, -⟩ | ⟨rfl, -⟩ | ⟨rfl, -⟩ | ⟨rfl, -⟩ | ⟨rfl, -⟩ <;> rfl
      rw [shiftBy?, hnone, unitSeconds?_eq_some_iff.2 hunit, hnow]
    | @months months moment hunit hmoment =>
      rw [shiftBy?, unitMonths?_eq_some_iff.2 hunit]
      simp [hmoment, Except.toOption]

theorem IsShifted.mem_units (h : IsShifted clock amount unit n) : unit ∈ units := by
  cases h with
  | seconds hunit => exact List.mem_map_of_mem (List.mem_append_left _ hunit)
  | months hunit => exact List.mem_map_of_mem (List.mem_append_right _ hunit)

theorem isDigit_of_mem_units (h : unit ∈ units) : isDigit unit = false := by
  have hunits : units.all (!isDigit ·) = true := by decide
  simpa using List.all_eq_true.1 hunits unit h

theorem ne_lineEnd_of_mem_units (h : unit ∈ units) : unit ≠ '\n' := by
  rintro rfl
  exact absurd h (by decide)

theorem endsIn_relative : EndsIn (· ∈ units) (numeral * oneOf (· ∈ units)) :=
  (endsIn_oneOf _).mul numeral

theorem mem_relativeTimes :
    cs ∈ relativeTimes ↔
      ∃ front unit, dropLineEnd cs = front ++ [unit] ∧ front ∈ numeral ∧ unit ∈ units := by
  rw [relativeTimes, mem_mul_lineEnd (endsIn_relative.mono fun _ => ne_lineEnd_of_mem_units),
    mem_mul_iff]
  constructor
  · rintro ⟨front, hfront, _, ⟨unit, hunit, rfl⟩, hcs⟩
    exact ⟨front, unit, hcs, hfront, hunit⟩
  · rintro ⟨front, unit, hcs, hfront, hunit⟩
    exact ⟨front, hfront, [unit], ⟨unit, hunit, rfl⟩, hcs⟩

/-- The unit has no part in the integer. -/
theorem integerOf_relative (hcs : dropLineEnd cs = front ++ [unit]) (hfront : front ∈ numeral)
    (hunit : unit ∈ units) :
    integerOf cs = integerOf front ∧ cs.countP isDigit = front.countP isDigit := by
  obtain ⟨mark, hmark, ds, hds, rfl⟩ := mem_mul_iff.1 hfront
  have hother : ∀ c ∈ [unit], isDigit c = false :=
    List.forall_mem_singleton.2 (isDigit_of_mem_units hunit)
  have hwith := integerOf_written hmark hds hother
  have hwithout := integerOf_numeral hmark hds
  rw [← List.append_assoc, ← hcs, (integerOf_dropLineEnd cs).1,
    (integerOf_dropLineEnd cs).2] at hwith
  exact ⟨hwith.1.trans hwithout.1.symm, hwith.2.trans hwithout.2.symm⟩

/-- A relative time is read if its digits are within the limit and its moment in the calendar. -/
theorem relativeTime?_eq_ok_some_iff :
    relativeTime? clock cs = .ok (some n) ↔
      cs ∈ relativeTimes ∧ cs.countP isDigit ≤ Numeral.digitLimit ∧
        ∃ unit ∈ (dropLineEnd cs).getLast?, IsShifted clock (integerOf cs) unit n := by
  constructor
  · intro h
    obtain ⟨front, unit, amount, hcs, hread, hshift⟩ := relativeTime?_cases h
    obtain ⟨hfront, hlimit, rfl⟩ := read?_eq_some_iff.1 hread
    have hshifted := shiftBy?_eq_ok_some_iff.1 hshift
    obtain ⟨hinteger, hcount⟩ := integerOf_relative hcs hfront hshifted.mem_units
    exact ⟨mem_relativeTimes.2 ⟨front, unit, hcs, hfront, hshifted.mem_units⟩, hcount ▸ hlimit,
      unit, by simp [hcs], hinteger ▸ hshifted⟩
  · rintro ⟨hmem, hlimit, last, hlast, hshift⟩
    obtain ⟨front, unit, hcs, hfront, hunit⟩ := mem_relativeTimes.1 hmem
    obtain rfl : unit = last := by simpa [hcs] using hlast
    obtain ⟨hinteger, hcount⟩ := integerOf_relative hcs hfront hunit
    rw [relativeTime?_of_dropLineEnd hcs,
      read?_eq_some_iff.2 ⟨hfront, hcount ▸ hlimit, hinteger.symm⟩]
    exact shiftBy?_eq_ok_some_iff.2 hshift

/-- A text of another form is no relative time, whatever the clock shows. -/
theorem relativeTime?_of_not_mem (h : cs ∉ relativeTimes) : relativeTime? clock cs = .ok none := by
  rcases List.eq_nil_or_concat' (dropLineEnd cs) with hnone | ⟨front, unit, hcs⟩
  · simp [relativeTime?, hnone]
  · rw [relativeTime?_of_dropLineEnd hcs]
    cases hread : Numeral.read? front with
    | none => rfl
    | some amount =>
      have hfront := mem_numeral.2 (Numeral.isSignedDigits_of_read? hread)
      have hunit : unit ∉ units := fun hunit =>
        h (mem_relativeTimes.2 ⟨front, unit, hcs, hfront, hunit⟩)
      have hmonths : unitMonths? unit = none := by
        refine Option.eq_none_iff_forall_ne_some.2 fun months hmonths => hunit ?_
        exact List.mem_map_of_mem (List.mem_append_right _ (unitMonths?_eq_some_iff.1 hmonths))
      have hseconds : unitSeconds? unit = none := by
        refine Option.eq_none_iff_forall_ne_some.2 fun seconds hseconds => hunit ?_
        exact List.mem_map_of_mem (List.mem_append_left _ (unitSeconds?_eq_some_iff.1 hseconds))
      simp [shiftBy?, hmonths, hseconds]

end Relative

/-! ### Decimals -/

def fractions : Language Char := optional (oneOf (· = '.') * digit∗)

def exponents : Language Char := optional (oneOf (· ∈ ['e', 'E']) * numeral)

/-- An integer, a fraction and an exponent of ten, of which the last two may be left out. -/
def decimals : Language Char := numeral * fractions * exponents * lineEnd

/-- The digits that stand after the point, if there is one. -/
inductive IsFraction : List Char → List Char → Prop
  | none : IsFraction [] []
  | point {ds : List Char} : ds ∈ digit∗ → IsFraction ('.' :: ds) ds

/-- The exponent that stands after its mark, if there is one. -/
inductive IsExponent : List Char → Int → Prop
  | none : IsExponent [] 0
  | marked {mark : Char} {cs : List Char} : mark ∈ ['e', 'E'] → cs ∈ numeral →
      IsExponent (mark :: cs) (integerOf cs)

/-- The text is that of the numeral, part by part. -/
inductive Spells (cs : List Char) : DecimalNumeral → Prop
  | parts {mark whole point fraction power : List Char} {exponent : Int} : mark ∈ sign →
      whole ∈ digits → IsFraction point fraction → IsExponent power exponent →
      dropLineEnd cs = mark ++ (whole ++ (point ++ power)) →
      Spells cs ⟨mark == ['-'], whole, fraction, exponent⟩

theorem mem_fractions : cs ∈ fractions ↔ ∃ ds, IsFraction cs ds := by
  rw [fractions, mem_optional, mem_oneOf_mul]
  constructor
  · rintro (rfl | ⟨_, ds, rfl, hds, rfl⟩)
    · exact ⟨[], .none⟩
    · exact ⟨ds, .point hds⟩
  · rintro ⟨ds, _ | hds⟩
    · exact .inl rfl
    · exact .inr ⟨'.', ds, rfl, hds, rfl⟩

theorem mem_exponents : cs ∈ exponents ↔ ∃ n, IsExponent cs n := by
  rw [exponents, mem_optional, mem_oneOf_mul]
  constructor
  · rintro (rfl | ⟨mark, rest, hmark, hrest, rfl⟩)
    · exact ⟨0, .none⟩
    · exact ⟨_, .marked hmark hrest⟩
  · rintro ⟨n, _ | ⟨hmark, hrest⟩⟩
    · exact .inl rfl
    · exact .inr ⟨_, _, hmark, hrest, rfl⟩

theorem signed_splitSign (h : cs ∈ numeral) :
    Numeral.signed (Numeral.splitSign cs).1 (Numeral.value (Numeral.splitSign cs).2) =
      integerOf cs := by
  obtain ⟨mark, hmark, ds, hds, rfl⟩ := mem_mul_iff.1 h
  rw [splitSign_numeral hmark hds, (integerOf_numeral hmark hds).1]

theorem exponent?_eq_some_iff {n : Int} :
    DecimalNumeral.exponent? cs = some n ↔ IsExponent cs n := by
  cases cs with
  | nil =>
    constructor
    · intro h
      obtain rfl := Option.some.inj h
      exact .none
    · rintro ⟨⟩
      rfl
  | cons mark cs =>
    constructor
    · intro h
      simp only [DecimalNumeral.exponent?] at h
      split_ifs at h with hwritten
      obtain ⟨hmark, hcs⟩ := Bool.and_eq_true_iff.1 hwritten
      obtain rfl := Option.some.inj h
      rw [signed_splitSign (mem_numeral.2 hcs)]
      exact .marked (by simpa using hmark) (mem_numeral.2 hcs)
    · rintro (_ | ⟨hmark, hcs⟩)
      have hwritten : ((mark == 'e' || mark == 'E') && Numeral.isSignedDigits cs) = true := by
        rw [mem_numeral.1 hcs]
        simpa using hmark
      simp only [DecimalNumeral.exponent?, hwritten, if_true, signed_splitSign hcs]

/-- What comes after the digits before the point starts with a point or the mark of an exponent. -/
theorem head_of_parts {point power : List Char} {n : Int} (hpoint : IsFraction point ds)
    (hpower : IsExponent power n) : ∀ c ∈ (point ++ power).head?, c ∈ ['.', 'e', 'E'] := by
  rintro c hc
  rcases hpoint with _ | _
  · rcases hpower with _ | ⟨hmark, -⟩
    · cases hc
    · obtain rfl := Option.some.inj hc
      exact List.mem_cons_of_mem _ hmark
  · obtain rfl := Option.some.inj hc
    exact List.mem_cons_self

theorem isDigit_of_mark (h : c ∈ ['.', 'e', 'E']) : isDigit c = false := by
  have hmarks : ['.', 'e', 'E'].all (!isDigit ·) = true := by decide
  simpa using List.all_eq_true.1 hmarks c h

theorem takeWhile_eq_nil_of_head {p : Char → Bool} (h : ∀ c ∈ cs.head?, p c = false) :
    cs.takeWhile p = [] ∧ cs.dropWhile p = cs := by
  cases cs with
  | nil => exact ⟨rfl, rfl⟩
  | cons c cs => simp [h c rfl]

theorem takeFraction_written {power : List Char} {n : Int} (hpoint : IsFraction cs ds)
    (hpower : IsExponent power n) : DecimalNumeral.takeFraction (cs ++ power) = (ds, power) := by
  rcases hpoint with _ | hds
  · rw [List.nil_append]
    unfold DecimalNumeral.takeFraction
    split
    · rcases hpower with _ | ⟨hmark, -⟩
      exact absurd hmark (by decide)
    · rfl
  · have hpower := head_of_parts .none hpower
    obtain ⟨htake, hdrop⟩ := takeWhile_eq_nil_of_head fun c hc => isDigit_of_mark (hpower c hc)
    rw [List.nil_append] at htake hdrop
    simp only [List.cons_append, DecimalNumeral.takeFraction]
    rw [List.takeWhile_append_of_pos (mem_kstar_digit.1 hds),
      List.dropWhile_append_of_pos (mem_kstar_digit.1 hds), htake, hdrop, List.append_nil]

theorem takeFraction_cases (cs : List Char) :
    ∃ point, cs = point ++ (DecimalNumeral.takeFraction cs).2 ∧
      IsFraction point (DecimalNumeral.takeFraction cs).1 := by
  unfold DecimalNumeral.takeFraction
  split
  · rename_i rest
    refine ⟨'.' :: rest.takeWhile isDigit, by simp, .point (mem_kstar_digit.2 fun c hc => ?_)⟩
    exact List.mem_takeWhile_imp hc
  · exact ⟨[], rfl, .none⟩

/-- A decimal is read if the text is that of a numeral with digits before the point. -/
theorem read?_decimal_iff {decimal : DecimalNumeral} :
    DecimalNumeral.read? (dropLineEnd cs) = some decimal ∧ decimal.whole ≠ [] ↔
      Spells cs decimal := by
  constructor
  · rintro ⟨h, hwhole⟩
    obtain ⟨mark, hmark, hcs, hnegative⟩ := splitSign_mark (dropLineEnd cs)
    simp only [DecimalNumeral.read?] at h
    split_ifs at h
    obtain ⟨exponent, hexponent, rfl⟩ := Option.map_eq_some_iff.1 h
    generalize (Numeral.splitSign (dropLineEnd cs)).2 = body at hcs hexponent hwhole
    obtain ⟨point, hbody, hpoint⟩ := takeFraction_cases (body.dropWhile isDigit)
    have hdigits : body.takeWhile isDigit ∈ digits :=
      mem_digits.2 ⟨hwhole, fun c hc => List.mem_takeWhile_imp hc⟩
    rw [hnegative]
    refine .parts hmark hdigits hpoint (exponent?_eq_some_iff.1 hexponent) ?_
    rw [← hbody, List.takeWhile_append_dropWhile, hcs]
  · rintro ⟨hmark, hwhole, hpoint, hpower, hcs⟩
    rename_i mark whole point fraction power exponent
    obtain ⟨hne, hdigits⟩ := mem_digits.1 hwhole
    obtain ⟨htake, hdrop⟩ := takeWhile_eq_nil_of_head fun c hc =>
      isDigit_of_mark (head_of_parts hpoint hpower c hc)
    refine ⟨?_, hne⟩
    simp only [DecimalNumeral.read?, hcs, splitSign_written hmark hwhole,
      List.takeWhile_append_of_pos hdigits, List.dropWhile_append_of_pos hdigits, htake, hdrop,
      takeFraction_written hpoint hpower, exponent?_eq_some_iff.2 hpower, List.append_nil]
    simp [hne]

theorem decimal?_eq_some_iff {value : Binary64} :
    decimal? cs = some value ↔ ∃ decimal, Spells cs decimal ∧ .ofNumeral decimal = value := by
  simp only [← read?_decimal_iff, decimal?]
  cases hread : DecimalNumeral.read? (dropLineEnd cs) with
  | none => simp
  | some decimal => simp [and_assoc]

/-- A decimal ends in a digit, or in a point after which no digit stands. -/
theorem endsIn_decimal :
    EndsIn (fun c => isDigit c = true ∨ c = '.') (numeral * fractions * exponents) := by
  have hpoint : EndsIn (fun c => isDigit c = true ∨ c = '.') (oneOf (· = '.') * digit∗) := by
    intro cs hcs
    obtain ⟨_, ds, rfl, hds, rfl⟩ := mem_oneOf_mul.1 hcs
    rcases List.eq_nil_or_concat' ds with rfl | ⟨init, last, rfl⟩
    · exact ⟨[], '.', .inr rfl, rfl⟩
    · exact ⟨'.' :: init, last, .inl (mem_kstar_digit.1 hds last (by simp)), rfl⟩
  have hpower : EndsIn (fun c => isDigit c = true ∨ c = '.') (oneOf (· ∈ ['e', 'E']) * numeral) :=
    (endsIn_numeral.mono fun c hc => .inl hc).mul _
  exact ((endsIn_numeral.mono fun c hc => .inl hc).mul_optional hpoint).mul_optional hpower

theorem ne_lineEnd_of_decimal (h : isDigit c = true ∨ c = '.') : c ≠ '\n' := by
  rintro rfl
  exact absurd h (by decide)

theorem mem_decimals : cs ∈ decimals ↔ ∃ decimal, Spells cs decimal := by
  rw [decimals, mem_mul_lineEnd (endsIn_decimal.mono fun _ => ne_lineEnd_of_decimal)]
  simp only [mem_mul_iff]
  constructor
  · rintro ⟨_, ⟨_, ⟨mark, hmark, whole, hwhole, rfl⟩, point, hpoint, rfl⟩, power, hpower, hcs⟩
    obtain ⟨fraction, hpoint⟩ := mem_fractions.1 hpoint
    obtain ⟨exponent, hpower⟩ := mem_exponents.1 hpower
    exact ⟨_, .parts hmark hwhole hpoint hpower (by simpa using hcs)⟩
  · rintro ⟨_, hmark, hwhole, hpoint, hpower, hcs⟩
    exact ⟨_, ⟨_, mem_mul_iff.2 ⟨_, hmark, _, hwhole, rfl⟩, _, mem_fractions.2 ⟨_, hpoint⟩, rfl⟩, _,
      mem_exponents.2 ⟨_, hpower⟩, by simpa using hcs⟩

end TypedValue

end ListingFilter
