import ListingFilter.Proofs.Rereading
import ListingFilter.Proofs.Splitting
import ListingFilter.Proofs.ValueFailures
/-!
# Terms that cannot be split

A term is read part by part, those included that repeat an option and are dropped later. A part with
a typed value cannot be read if the value is a date on the first day of the calendar, or if it sets
the first row or the number of rows to a relative time that is too long to be written. The other
controls are corrected to short integers.
-/

namespace ListingFilter

/-! ### Controls -/

/-- The integer is one of 32 bits. -/
def IsMachineInteger (n : Int) : Prop := leastLeading ≤ n ∧ n ≤ greatestLeading

instance (n : Int) : Decidable (IsMachineInteger n) := inferInstanceAs (Decidable (_ ∧ _))

theorem isMachineInteger_leadingInteger (text : String) :
    IsMachineInteger (leadingInteger text) := by
  simp only [IsMachineInteger, leadingInteger, leastLeading, greatestLeading]
  split_ifs <;> omega

/-- A machine integer can be written. -/
theorem IsMachineInteger.natAbs_lt {n : Int} (h : IsMachineInteger n) :
    n.natAbs < 10 ^ Numeral.digitLimit := by
  simp only [IsMachineInteger, leastLeading, greatestLeading] at h
  have hshort : n.natAbs < 10 ^ 10 := by
    norm_num
    omega
  exact hshort.trans_le (Nat.pow_le_pow_right (by decide) (by decide))

namespace Keyword

variable {keyword : Keyword} {column : String}

/-- The columns of the page, whose integers have no upper bound. -/
def pageColumns : List String := ["first", "rows"]

theorem pageColumns_subset (h : column ∈ pageColumns) : column ∈ integerControls := by
  revert column
  decide

/-- No integer control has names of severities. -/
theorem severityColumns_of_integerControls (hlower : Text.lower column = column)
    (h : column ∈ integerControls) :
    ((some column).map Text.lower).any TypedValue.severityColumns.contains = false := by
  have hall : ∀ column ∈ integerControls, TypedValue.severityColumns.contains column = false := by
    decide
  rw [Option.map_some, hlower]
  exact hall column h

/-- A legal value of another control is short. -/
theorem natAbs_lt_of_correction? {value : Int} (hpage : column ∉ pageColumns)
    (h : correction? column value = none) : value.natAbs < 1000 := by
  simp only [pageColumns, List.mem_cons, List.not_mem_nil, or_false, not_or] at hpage
  simp only [correction?, if_neg hpage.1, if_neg hpage.2] at h
  split_ifs at h with hqod hlow hhigh hswitch
  · omega
  · simp only [Bool.or_eq_true, decide_eq_true_eq] at hswitch
    omega

/-- A legal value of the page is small, or it has no upper bound. -/
theorem correction?_of_pageColumns (hpage : column ∈ pageColumns) {value : Int} :
    (1 ≤ value → correction? column value = none) ∧
      (correction? column value = none → -2 ≤ value) := by
  simp only [pageColumns, List.mem_cons, List.not_mem_nil, or_false] at hpage
  rcases hpage with rfl | rfl <;> simp only [correction?] <;> split_ifs <;> simp_all <;> omega

/-- A control cannot be written if it sets the page to an integer that is too long. -/
theorem failsIff_legal (hcolumn : keyword.column = some column)
    (hlower : Text.lower column = column) :
    FailsIff (column ∈ pageColumns ∧ keyword.type = .integer ∧
      10 ^ Numeral.digitLimit ≤ keyword.integer) keyword.legal := by
  have hcast : (10 : Int) ^ Numeral.digitLimit = ((10 ^ Numeral.digitLimit : Nat) : Int) :=
    (Nat.cast_pow 10 Numeral.digitLimit).symm
  have hlimit : 10 ^ 10 ≤ 10 ^ Numeral.digitLimit := Nat.pow_le_pow_right (by decide) (by decide)
  have hvalue : keyword.type = .integer → keyword.controlValue = keyword.integer := by
    intro htype
    rw [controlValue, if_pos htype]
  rw [hcast]
  by_cases hinteger : column ∈ integerControls
  · cases hcorrection : correction? column keyword.controlValue with
    | some value =>
      rw [legal_of_correction hcolumn hlower hinteger hcorrection]
      refine FailsIff.of_ok rfl ?_
      rintro ⟨hpage, htype, hlong⟩
      rw [hvalue htype, (correction?_of_pageColumns hpage).1 (by omega)] at hcorrection
      cases hcorrection
    | none =>
      rw [legal_of_no_correction hcolumn hlower hinteger hcorrection]
      split_ifs with hshort
      · refine FailsIff.of_ok rfl ?_
        rintro ⟨hpage, htype, hlong⟩
        rw [hvalue htype] at hshort
        omega
      · have hpage : column ∈ pageColumns := by
          by_contra hother
          have := natAbs_lt_of_correction? hother hcorrection
          omega
        have htype : keyword.type = .integer := by
          by_contra hother
          rw [controlValue, if_neg hother] at hshort
          exact hshort (isMachineInteger_leadingInteger keyword.text).natAbs_lt
        have hlow := (correction?_of_pageColumns hpage).2 hcorrection
        rw [hvalue htype] at hshort hlow
        exact FailsIff.of_error rfl trivial ⟨hpage, htype, by omega⟩
  · have hnot : column ∉ pageColumns := fun hpage => hinteger (pageColumns_subset hpage)
    by_cases hcontrol : column ∈ controlColumns
    · rw [legal_of_not_integer hcolumn hlower hcontrol hinteger]
      exact FailsIff.of_ok rfl fun h => hnot h.1
    · rw [legal_of_not_control hcolumn hlower hcontrol]
      exact FailsIff.of_ok rfl fun h => hnot h.1

end Keyword

/-! ### Parts -/

namespace Part

/-- The value is a date on the first day of the calendar, whatever the time of day. -/
def IsOnFirstDay (part : Part) : Prop :=
  ∃ second, TypedValue.date? part.body.toList = some (⟨1, 1, 1⟩, second)

/-- The value is a relative time that is too long to be written. -/
def IsTooLate (clock : Clock) (part : Part) : Prop :=
  ∃ moment, TypedValue.relativeTime? clock part.body.toList = .ok (some moment) ∧
    10 ^ Numeral.digitLimit ≤ moment

/-- The part has a value with a type that it cannot have. -/
def IsOutOfRange (clock : Clock) (part : Part) : Prop :=
  match part.lead with
  | .bare | .approx => False
  | .exact => part.IsOnFirstDay
  | .column name _ => part.IsOnFirstDay ∨ name ∈ Keyword.pageColumns ∧ part.IsTooLate clock

variable {clock : Clock} {part : Part}

theorem failsIff_column (hclock : clock.IsFinite) {name : String} {comparison : Comparison}
    (hlower : Text.lower name = name) (hlead : part.lead = .column name comparison) :
    FailsIff (part.IsOnFirstDay ∨ name ∈ Keyword.pageColumns ∧ part.IsTooLate clock)
      (part.keyword clock) := by
  have hsteps : part.keyword clock = TypedValue.of clock (some name) part.body >>= fun value =>
      (part.typed (some name) (.column comparison) value).legal := by
    simp only [keyword, hlead]
    cases TypedValue.of clock (some name) part.body <;> rfl
  rw [hsteps]
  refine (TypedValue.failsIff_of hclock (some name) part.body).bind fun value hvalue => ?_
  have hlegal : FailsIff _ (part.typed (some name) (.column comparison) value).legal :=
    Keyword.failsIff_legal rfl hlower
  refine hlegal.congr ?_
  constructor
  · rintro ⟨hpage, moment, hmoment, hlong⟩
    have hinteger : TypedValue.of clock (some name) part.body = .ok (.integer moment) :=
      (TypedValue.of_eq_integer_iff (Keyword.severityColumns_of_integerControls hlower
        (Keyword.pageColumns_subset hpage))).2 (.relative hmoment)
    rw [hvalue] at hinteger
    obtain rfl := Except.ok.inj hinteger
    exact ⟨hpage, rfl, hlong⟩
  · rintro ⟨hpage, htype, hlong⟩
    refine ⟨hpage, ?_⟩
    cases value with
    | integer moment =>
      have hlimit : ((10 ^ Numeral.digitLimit : Nat) : Int) ≤ moment :=
        (Nat.cast_pow 10 Numeral.digitLimit).trans_le hlong
      have hinteger := (TypedValue.of_eq_integer_iff
        (Keyword.severityColumns_of_integerControls hlower
          (Keyword.pageColumns_subset hpage))).1 hvalue
      exact ⟨moment, hinteger.relative_of_long (by omega), hlong⟩
    | double value => cases htype
    | string => cases htype

theorem failsIff_keyword (hclock : clock.IsFinite)
    (hlower : ∀ name comparison, part.lead = .column name comparison → Text.lower name = name) :
    FailsIff (part.IsOutOfRange clock) (part.keyword clock) := by
  unfold IsOutOfRange
  cases hlead : part.lead with
  | bare => exact FailsIff.of_ok (by rw [keyword, hlead]) not_false
  | approx => exact FailsIff.of_ok (by rw [keyword, hlead]) not_false
  | exact =>
    have hsteps : part.keyword clock =
        (TypedValue.of clock none part.body).map (part.typed none .approx) := by
      simp only [keyword, hlead]
      cases TypedValue.of clock none part.body <;> rfl
    rw [hsteps]
    exact (TypedValue.failsIff_of hclock none part.body).map _
  | column name comparison => exact failsIff_column hclock (hlower name comparison hlead) hlead

end Part

/-! ### Terms -/

/-- A term cannot be split exactly if the value of some part is out of range. -/
theorem failsIff_split {clock : Clock} (hclock : clock.IsFinite) (term : String)
    (defaultSort : Option String) :
    FailsIff (∃ part ∈ Part.ofTerm term, part.IsOutOfRange clock)
      (split clock term defaultSort) := by
  unfold split writtenKeywords
  refine ((FailsIff.mapM fun part hpart => ?_).map _).map _
  exact Part.failsIff_keyword hclock fun _ _ hlead => Part.lower_of_mem_ofTerm hpart hlead

end ListingFilter
