import ListingFilter.Keyword.Part
import ListingFilter.Proofs.Controls
/-!
# The keyword of a part

A part stands for free text, for a typed value, or for the legal form of a typed value on a column.
On a control column the comparison does not matter, and a written integer gives the setting of its
legal value.
-/

namespace ListingFilter

theorem TypedValue.doubleValue_of_type {value : TypedValue} (h : value.type = .integer) :
    value.doubleValue = .zero := by
  cases value with
  | double value => cases h
  | integer value => rfl
  | string => rfl

/-! ### Free text -/

namespace Part

variable {clock : Clock} {part : Part} {keyword : Keyword}

/-- Only the relation depends on whether the text is an operator. -/
theorem freeText_eq (part : Part) :
    ∃ relation, part.freeText =
      { text := part.body, relation := relation, type := .string, quoted := part.quoted,
        approx := part.lead == .approx } := by
  simp only [freeText]
  split_ifs
  · exact ⟨.none, rfl⟩
  · exact ⟨.approx, rfl⟩

@[simp] theorem freeText_text (part : Part) : part.freeText.text = part.body := by
  obtain ⟨relation, h⟩ := part.freeText_eq
  rw [h]

@[simp] theorem freeText_column (part : Part) : part.freeText.column = none := by
  obtain ⟨relation, h⟩ := part.freeText_eq
  rw [h]

@[simp] theorem freeText_type (part : Part) : part.freeText.type = .string := by
  obtain ⟨relation, h⟩ := part.freeText_eq
  rw [h]

@[simp] theorem freeText_quoted (part : Part) : part.freeText.quoted = part.quoted := by
  obtain ⟨relation, h⟩ := part.freeText_eq
  rw [h]

@[simp] theorem freeText_equal (part : Part) : part.freeText.equal = false := by
  obtain ⟨relation, h⟩ := part.freeText_eq
  rw [h]

@[simp] theorem freeText_approx (part : Part) :
    part.freeText.approx = (part.lead == .approx) := by
  obtain ⟨relation, h⟩ := part.freeText_eq
  rw [h]

/-! ### All that a part can stand for -/

theorem keyword_cases (h : part.keyword clock = .ok keyword) :
    ((part.lead = .bare ∨ part.lead = .approx) ∧ keyword = part.freeText) ∨
    (part.lead = .exact ∧ ∃ value, TypedValue.of clock none part.body = .ok value ∧
      keyword = part.typed none .approx value) ∨
    ∃ name comparison value, part.lead = .column name comparison ∧
      TypedValue.of clock (some name) part.body = .ok value ∧
      (part.typed (some name) (.column comparison) value).legal = .ok keyword := by
  unfold Part.keyword at h
  cases hlead : part.lead with
  | bare =>
    simp only [hlead, Except.ok.injEq] at h
    exact .inl ⟨.inl rfl, h.symm⟩
  | approx =>
    simp only [hlead, Except.ok.injEq] at h
    exact .inl ⟨.inr rfl, h.symm⟩
  | exact =>
    cases hvalue : TypedValue.of clock none part.body with
    | error fault => simp [hlead, hvalue] at h
    | ok value =>
      simp only [hlead, hvalue, Except.ok.injEq] at h
      exact .inr (.inl ⟨rfl, value, rfl, h.symm⟩)
  | column name comparison =>
    cases hvalue : TypedValue.of clock (some name) part.body with
    | error fault => simp [hlead, hvalue] at h
    | ok value =>
      simp only [hlead, hvalue] at h
      exact .inr (.inr ⟨name, comparison, value, rfl, hvalue, h⟩)

end Part

/-! ### Values on a column -/

namespace Keyword

variable {clock : Clock}

theorem keyword_column {name body : String} {comparison : Comparison} {quoted : Bool}
    {value : TypedValue} (hvalue : TypedValue.of clock (some name) body = .ok value) :
    Part.keyword clock ⟨.column name comparison, body, quoted⟩ =
      (Part.typed ⟨.column name comparison, body, quoted⟩ (some name) (.column comparison)
        value).legal := by
  simp [Part.keyword, hvalue]

/-- On a control column all comparisons say the same. -/
theorem keyword_comparison {name : String} (hlower : Text.lower name = name)
    (hcontrol : name ∈ controlColumns) (body : String) (quoted : Bool)
    (comparison other : Comparison) :
    Part.keyword clock ⟨.column name comparison, body, quoted⟩ =
      Part.keyword clock ⟨.column name other, body, quoted⟩ := by
  cases hvalue : TypedValue.of clock (some name) body with
  | error fault => simp [Part.keyword, hvalue]
  | ok value =>
    rw [keyword_column hvalue, keyword_column hvalue]
    exact @legal_relation (Part.typed ⟨.column name other, body, quoted⟩ (some name)
      (.column other) value) name rfl hlower hcontrol (.column comparison)

/-- The keyword that puts `value` in an integer control column. -/
def setting (column : String) (value : Int) (quoted : Bool) : Keyword :=
  { text := toString value, column := some column, type := .integer, integer := value,
    quoted := quoted }

/-- A written integer is read as the setting of its legal value. -/
theorem keyword_toString {name : String} {value : Int} (hlower : Text.lower name = name)
    (hinteger : name ∈ integerControls) (hlimit : value.natAbs < 10 ^ Numeral.digitLimit)
    (comparison : Comparison) (quoted : Bool) :
    Part.keyword clock ⟨.column name comparison, toString value, quoted⟩ =
      .ok (setting name (legalValue name value) quoted) := by
  rw [keyword_column (TypedValue.of_toString clock (some name) hlimit)]
  generalize htyped : Part.typed ⟨.column name comparison, toString value, quoted⟩ (some name)
    (.column comparison) (.integer value) = typed
  have hcolumn : typed.column = some name := htyped ▸ rfl
  have hvalue : typed.controlValue = value := htyped ▸ rfl
  cases hcorrection : correction? name value with
  | none =>
    rw [legal_of_no_correction hcolumn hlower hinteger (hvalue.symm ▸ hcorrection), hvalue,
      if_pos hlimit, legalValue_of_none hcorrection, ← htyped]
    simp [Part.typed, TypedValue.type, TypedValue.doubleValue, withControl, setting]
  | some corrected =>
    rw [legal_of_correction hcolumn hlower hinteger (hvalue.symm ▸ hcorrection),
      legalValue_of_some hcorrection, ← htyped]
    simp [Part.typed, TypedValue.doubleValue, withControl, setting]

end Keyword

end ListingFilter
