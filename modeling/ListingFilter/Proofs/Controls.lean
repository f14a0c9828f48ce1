import ListingFilter.Proofs.WrittenIntegers
/-!
# Control keywords and their legal values

`Keyword.legal` does three things, according to the column: nothing, drop the relation, or put a
legal integer in. One equation for each is stated here. A correction gives a value that needs no
further correction, which is why a legal keyword stays as it is when its text is read again.
-/

namespace ListingFilter

namespace Numeral

theorem write?_eq (n : Int) :
    write? n = if n.natAbs < 10 ^ digitLimit then some (toString n) else none := by
  rw [write?, Nat.pow_eq]

theorem write?_eq_some_iff {n : Int} {text : String} :
    write? n = some text ↔ n.natAbs < 10 ^ digitLimit ∧ text = toString n := by
  simp [write?_eq, eq_comm]

/-- Small integers may be written. -/
theorem lt_digitLimit_of_natAbs_lt {n : Int} (h : n.natAbs < 1000) :
    n.natAbs < 10 ^ digitLimit :=
  lt_of_lt_of_le (show n.natAbs < 10 ^ 3 from h) (Nat.pow_le_pow_right (by decide) (by decide))

end Numeral

namespace Keyword

theorem integerControls_subset {column : String} (h : column ∈ integerControls) :
    column ∈ controlColumns := by
  revert column
  decide

/-- The value of a control keyword before it is corrected. -/
def controlValue (keyword : Keyword) : Int :=
  if keyword.type = .integer then keyword.integer else leadingInteger keyword.text

/-- The keyword with an integer and the text for it, as a control keyword. -/
def withControl (keyword : Keyword) (value : Int) (text : String) : Keyword :=
  { keyword with
    text := text
    integer := value
    type := if text = toString value then .integer else keyword.type
    relation := .none }

/-! ### Corrections -/

/-- What a correction puts in is small. -/
theorem correction?_natAbs {column : String} {value corrected : Int}
    (h : correction? column value = some corrected) : corrected.natAbs < 1000 := by
  simp only [correction?] at h
  split_ifs at h <;> cases h <;> decide

/-- What a correction puts in is legal. -/
theorem correction?_correction {column : String} {value corrected : Int}
    (h : correction? column value = some corrected) : correction? column corrected = none := by
  simp only [correction?] at h ⊢
  split_ifs at h <;> cases h <;> simp_all

theorem correction?_rows_eq_none_iff (rows : Int) :
    correction? "rows" rows = none ↔ rows ≠ 0 ∧ -2 ≤ rows := by
  simp only [correction?]
  split_ifs <;> simp_all

/-- The legal value of a control column for `value`. -/
def legalValue (column : String) (value : Int) : Int := (correction? column value).getD value

theorem legalValue_of_none {column : String} {value : Int} (h : correction? column value = none) :
    legalValue column value = value := by
  simp [legalValue, h]

theorem legalValue_of_some {column : String} {value corrected : Int}
    (h : correction? column value = some corrected) : legalValue column value = corrected := by
  simp [legalValue, h]

/-! ### One equation for each kind of column -/

variable {keyword : Keyword} {column : String}

theorem legal_of_not_control (hcolumn : keyword.column = some column)
    (hlower : Text.lower column = column) (h : column ∉ controlColumns) :
    keyword.legal = .ok keyword := by
  simp [legal, hcolumn, hlower, h]

/-- A control keyword loses its relation, whichever it is. -/
theorem legal_relation (hcolumn : keyword.column = some column)
    (hlower : Text.lower column = column) (hcontrol : column ∈ controlColumns)
    (relation : Relation) : { keyword with relation := relation }.legal = keyword.legal := by
  simp [legal, hcolumn, hlower, hcontrol]

theorem legal_of_not_integer (hcolumn : keyword.column = some column)
    (hlower : Text.lower column = column) (hcontrol : column ∈ controlColumns)
    (h : column ∉ integerControls) :
    keyword.legal = .ok { keyword with relation := .none } := by
  simp [legal, hcolumn, hlower, hcontrol, h]

theorem legal_of_correction (hcolumn : keyword.column = some column)
    (hlower : Text.lower column = column) (h : column ∈ integerControls) {value : Int}
    (hvalue : correction? column keyword.controlValue = some value) :
    keyword.legal = .ok (keyword.withControl value (toString value)) := by
  have hwrite : Numeral.write? value = some (toString value) :=
    Numeral.write?_eq_some_iff.2
      ⟨Numeral.lt_digitLimit_of_natAbs_lt (correction?_natAbs hvalue), rfl⟩
  rw [controlValue] at hvalue
  simp [legal, hcolumn, hlower, integerControls_subset h, h, hvalue, hwrite, withControl]

theorem legal_of_no_correction (hcolumn : keyword.column = some column)
    (hlower : Text.lower column = column) (h : column ∈ integerControls)
    (hvalue : correction? column keyword.controlValue = none) :
    keyword.legal =
      if keyword.controlValue.natAbs < 10 ^ Numeral.digitLimit then
        .ok (keyword.withControl keyword.controlValue keyword.text)
      else .error .numeralTooLong := by
  have hwritten : keyword.controlValue =
      if keyword.type = .integer then keyword.integer else leadingInteger keyword.text := rfl
  simp only [legal, hcolumn, hlower, List.contains_eq_mem, integerControls_subset h, h,
    decide_true, Bool.not_true, Bool.false_eq_true, if_false, ← hwritten, hvalue,
    Numeral.write?_eq]
  split_ifs with hlimit
  · simp [withControl, hcolumn]
  · rfl

/-- All that `legal` can do. -/
theorem legal_cases {result : Keyword} (hcolumn : keyword.column = some column)
    (hlower : Text.lower column = column) (h : keyword.legal = .ok result) :
    (column ∉ controlColumns ∧ result = keyword) ∨
    (column ∈ controlColumns ∧ column ∉ integerControls ∧
      result = { keyword with relation := .none }) ∨
    (column ∈ integerControls ∧ ∃ value, correction? column keyword.controlValue = some value ∧
      result = keyword.withControl value (toString value)) ∨
    (column ∈ integerControls ∧ correction? column keyword.controlValue = none ∧
      keyword.controlValue.natAbs < 10 ^ Numeral.digitLimit ∧
      result = keyword.withControl keyword.controlValue keyword.text) := by
  by_cases hcontrol : column ∈ controlColumns
  · by_cases hinteger : column ∈ integerControls
    · cases hcorrection : correction? column keyword.controlValue with
      | none =>
        rw [legal_of_no_correction hcolumn hlower hinteger hcorrection] at h
        split_ifs at h with hlimit
        exact .inr (.inr (.inr ⟨hinteger, rfl, hlimit, (Except.ok.inj h).symm⟩))
      | some value =>
        rw [legal_of_correction hcolumn hlower hinteger hcorrection] at h
        exact .inr (.inr (.inl ⟨hinteger, value, rfl, (Except.ok.inj h).symm⟩))
    · rw [legal_of_not_integer hcolumn hlower hcontrol hinteger] at h
      exact .inr (.inl ⟨hcontrol, hinteger, (Except.ok.inj h).symm⟩)
  · rw [legal_of_not_control hcolumn hlower hcontrol] at h
    exact .inl ⟨hcontrol, (Except.ok.inj h).symm⟩

/-! ### Legal keywords -/

/-- On an integer control the keyword has no relation and a legal integer. -/
def IsLegal (keyword : Keyword) : Prop :=
  ∀ column ∈ integerControls, keyword.column = some column →
    keyword.relation = .none ∧ correction? column keyword.integerValue = none

instance (keyword : Keyword) : Decidable keyword.IsLegal :=
  inferInstanceAs (Decidable (∀ column ∈ integerControls, keyword.column = some column →
    keyword.relation = .none ∧ correction? column keyword.integerValue = none))

theorem isLegal_of_column_eq_none (h : keyword.column = none) : keyword.IsLegal := by
  intro column _ hcolumn
  rw [h] at hcolumn
  cases hcolumn

/-- The integer that is put in is the one that is read off, whatever the type. -/
theorem integerValue_withControl {value : Int} {text : String}
    (h : keyword.type ≠ .integer → text ≠ toString value → leadingInteger text = value) :
    (keyword.withControl value text).integerValue = value := by
  by_cases hdecimal : text = toString value
  · simp [withControl, integerValue, isNumeric, hdecimal, ValueType.isNumeric]
  · rw [integerValue]
    split_ifs with hnumeric
    · rfl
    · refine h (fun htype => hnumeric ?_) hdecimal
      simp [isNumeric, withControl, htype, ValueType.isNumeric]

/-- What `legal` gives is legal. -/
theorem isLegal_of_legal {result : Keyword} (hcolumn : keyword.column = some column)
    (hlower : Text.lower column = column) (h : keyword.legal = .ok result) : result.IsLegal := by
  intro other hother hresult
  rcases legal_cases hcolumn hlower h with ⟨hcontrol, rfl⟩ | ⟨-, hinteger, rfl⟩ |
    ⟨-, value, hcorrection, rfl⟩ | ⟨-, hcorrection, -, rfl⟩
  · obtain rfl : column = other := Option.some.inj (hcolumn.symm.trans hresult)
    exact absurd (integerControls_subset hother) hcontrol
  · obtain rfl : column = other := Option.some.inj (hcolumn.symm.trans hresult)
    exact absurd hother hinteger
  · obtain rfl : column = other := Option.some.inj (hcolumn.symm.trans hresult)
    rw [integerValue_withControl fun _ hne => absurd rfl hne]
    exact ⟨rfl, correction?_correction hcorrection⟩
  · obtain rfl : column = other := Option.some.inj (hcolumn.symm.trans hresult)
    rw [integerValue_withControl fun htype _ => by simp [controlValue, htype]]
    exact ⟨rfl, hcorrection⟩

end Keyword

end ListingFilter
