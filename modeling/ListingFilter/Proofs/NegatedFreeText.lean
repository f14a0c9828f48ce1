import ListingFilter.Clause
import ListingFilter.Proofs.Outcomes
/-!
# The negation of free text

Free text is negated inside its condition: where the plain condition asks for one column that
compares, the negated one asks of every column that it is missing or does not compare. Read with the
three truth values of SQL the two are opposites on every row, missing values included. A condition
is taken as a `Formula`, of which it is the text: declared expressions and operands stay what they
are, and every junction has parentheses of its own, so that no words between two comparisons can be
read in another way.
-/

namespace ListingFilter

/-! ### Truth values -/

/-- The truth values of SQL. A comparison with a missing value is unknown. -/
inductive Truth
  | true
  | false
  | unknown
  deriving DecidableEq, Repr

namespace Truth

def ofBool (b : Bool) : Truth := if b then .true else .false

/-- True as soon as one side is, false if both are. -/
def or : Truth → Truth → Truth
  | .true, _ | _, .true => .true
  | .false, .false => .false
  | _, _ => .unknown

/-- False as soon as one side is, true if both are. -/
def and : Truth → Truth → Truth
  | .false, _ | _, .false => .false
  | .true, .true => .true
  | _, _ => .unknown

theorem or_eq_true_iff {a b : Truth} : a.or b = .true ↔ a = .true ∨ b = .true := by
  cases a <;> cases b <;> simp [or]

theorem and_eq_true_iff {a b : Truth} : a.and b = .true ↔ a = .true ∧ b = .true := by
  cases a <;> cases b <;> simp [and]

theorem and_ne_unknown {a b : Truth} (ha : a ≠ .unknown) (hb : b ≠ .unknown) :
    a.and b ≠ .unknown := by
  cases a <;> cases b <;> simp_all [and]

end Truth

/-! ### Formulas -/

/-- A condition on the declared expressions. -/
inductive Formula
  | isNull (expr : String)
  /-- The comparison of a probe by its operator, or by the negation of that. -/
  | compares (negated : Bool) (probe : Probe)
  | any (formulas : List Formula)
  | all (formulas : List Formula)

/-- The comparison of a probe in SQL. -/
def Probe.comparisonText (negated : Bool) (probe : Probe) : String :=
  "CAST(" ++ probe.expr ++ " AS " ++ (if probe.numeric then "NUMERIC" else "TEXT") ++ ") " ++
    probe.operator.text negated ++ " " ++ probe.operand

namespace Formula

mutual

/-- The formula in SQL. -/
def text : Formula → String
  | .isNull expr => expr ++ " IS NULL"
  | .compares negated probe => probe.comparisonText negated
  | .any formulas => "(" ++ String.intercalate " OR " (texts formulas) ++ ")"
  | .all formulas => "(" ++ String.intercalate " AND " (texts formulas) ++ ")"

def texts : List Formula → List String
  | [] => []
  | formula :: rest => formula.text :: texts rest

end

section Value

variable {Value : Type} (row : String → Option Value) (holds : Probe → Value → Bool)

mutual

/-- The truth value of the formula on a row. The row gives each declared expression its value, or
none for NULL; `holds` tells whether a value compares with the operand of a probe. -/
def value : Formula → Truth
  | .isNull expr => .ofBool (row expr).isNone
  | .compares negated probe =>
    match row probe.expr with
    | none => .unknown
    | some value => .ofBool (holds probe value != negated)
  | .any formulas => anyValue formulas
  | .all formulas => allValue formulas

def anyValue : List Formula → Truth
  | [] => .false
  | formula :: rest => formula.value.or (anyValue rest)

def allValue : List Formula → Truth
  | [] => .true
  | formula :: rest => formula.value.and (allValue rest)

end

variable {row holds} {formulas : List Formula}

theorem value_any_eq_true_iff :
    (any formulas).value row holds = .true ↔
      ∃ formula ∈ formulas, formula.value row holds = .true := by
  rw [value]
  induction formulas with
  | nil => simp [anyValue]
  | cons formula rest ih => simp [anyValue, Truth.or_eq_true_iff, ih]

theorem value_all_eq_true_iff :
    (all formulas).value row holds = .true ↔
      ∀ formula ∈ formulas, formula.value row holds = .true := by
  rw [value]
  induction formulas with
  | nil => simp [allValue]
  | cons formula rest ih => simp [allValue, Truth.and_eq_true_iff, ih]

theorem value_all_ne_unknown
    (h : ∀ formula ∈ formulas, formula.value row holds ≠ .unknown) :
    (all formulas).value row holds ≠ .unknown := by
  rw [value]
  induction formulas with
  | nil => simp [allValue]
  | cons formula rest ih =>
    obtain ⟨hfirst, hrest⟩ := List.forall_mem_cons.1 h
    rw [allValue]
    exact Truth.and_ne_unknown hfirst (ih hrest)

end Value

end Formula

/-! ### Free text as a formula -/

/-- A probe as a formula. Its negation also holds of a missing value. -/
def Probe.formula (negated : Bool) (probe : Probe) : Formula :=
  if negated then .any [.isNull probe.expr, .compares true probe] else .compares false probe

/-- Some probe succeeds; under a negation, every probe fails. -/
def freeTextFormula (negated : Bool) (probes : List Probe) : Formula :=
  if negated then .all (probes.map (Probe.formula true))
  else .any (probes.map (Probe.formula false))

theorem Probe.text_formula (negated : Bool) (probe : Probe) :
    (probe.formula negated).text = probe.text negated := by
  cases negated with
  | false => rfl
  | true =>
    have hwords : " IS NULL OR " = " IS NULL" ++ " OR " := by decide
    simp only [formula, if_true, Formula.text, Formula.texts, Probe.text, Probe.comparisonText,
      hwords, String.intercalate_cons_cons, String.intercalate_singleton, toString,
      String.append_assoc]

theorem Formula.texts_map_formula (negated : Bool) (probes : List Probe) :
    Formula.texts (probes.map (Probe.formula negated)) = probes.map (Probe.text negated) := by
  induction probes with
  | nil => rfl
  | cons probe rest ih =>
    rw [List.map_cons, List.map_cons, Formula.texts, ih, Probe.text_formula]

/-- The condition of free text is the text of its formula. -/
theorem freeTextCondition_eq {probes : List Probe} (h : probes ≠ []) (negated : Bool) :
    freeTextCondition negated probes = some (freeTextFormula negated probes).text := by
  rw [freeTextCondition, if_neg (by simpa using h)]
  cases negated with
  | false => simp [freeTextFormula, Formula.text, Formula.texts_map_formula]
  | true => simp [freeTextFormula, Formula.text, Formula.texts_map_formula]

section Opposite

variable {Value : Type} {row : String → Option Value} {holds : Probe → Value → Bool}

/-- The negation of a probe is true or false, and true exactly where the probe is not. -/
theorem Probe.value_formula_negated (probe : Probe) :
    (probe.formula true).value row holds ≠ .unknown ∧
      ((probe.formula true).value row holds = .true ↔
        (probe.formula false).value row holds ≠ .true) := by
  cases hrow : row probe.expr with
  | none =>
    simp [Probe.formula, Formula.value, Formula.anyValue, hrow, Truth.ofBool, Truth.or]
  | some value =>
    cases hholds : holds probe value <;>
      simp [Probe.formula, Formula.value, Formula.anyValue, hrow, hholds, Truth.ofBool, Truth.or]

theorem value_freeTextFormula_negated (probes : List Probe) :
    (freeTextFormula true probes).value row holds ≠ .unknown ∧
      ((freeTextFormula true probes).value row holds = .true ↔
        (freeTextFormula false probes).value row holds ≠ .true) := by
  constructor
  · refine Formula.value_all_ne_unknown fun formula hmem => ?_
    obtain ⟨probe, -, rfl⟩ := List.mem_map.1 hmem
    exact probe.value_formula_negated.1
  · calc (freeTextFormula true probes).value row holds = .true
        ↔ ∀ probe ∈ probes, (probe.formula true).value row holds = .true := by
          simp [freeTextFormula, Formula.value_all_eq_true_iff]
      _ ↔ ∀ probe ∈ probes, (probe.formula false).value row holds ≠ .true :=
          forall₂_congr fun probe _ => probe.value_formula_negated.2
      _ ↔ (freeTextFormula false probes).value row holds ≠ .true := by
          simp [freeTextFormula, Formula.value_any_eq_true_iff]

end Opposite

/-! ### The probes of free text -/

/-- The columns that free text is looked for in. -/
def freeTextColumns (scope : Scope) (keyword : Keyword) : List Column :=
  scope.filterColumns.filterMap
    (freeTextTarget? scope.selectColumns scope.whereColumns scope.enums keyword)

/-- The probe compares a column with the text, or with the number if both are numbers and the text
is exact. -/
structure Probe.IsOf (keyword : Keyword) (regexp : Bool) (column : Column) (probe : Probe) :
    Prop where
  expr : probe.expr = column.select
  operator : probe.operator = freeTextOperator keyword regexp
  numeric : probe.numeric = (keyword.equal && keyword.isNumeric && column.type.isNumeric)

/-- There is one probe for each column, in order. -/
theorem forall₂_of_bindProbes {keyword : Keyword} {regexp : Bool} {shared : Option String}
    {columns : List Column} {bindings after : Sql.Bindings} {probes : List Probe}
    (h : bindProbes keyword regexp shared columns bindings = .ok (probes, after)) :
    List.Forall₂ (Probe.IsOf keyword regexp) columns probes := by
  induction columns generalizing shared bindings after probes with
  | nil =>
    obtain ⟨rfl, -⟩ := Prod.mk.inj (Except.ok.inj h)
    exact .nil
  | cons column rest ih =>
    -- Whatever is bound for this column, the probes of the others stand behind its own.
    have hbehind : ∀ {shared probe before}, probe.IsOf keyword regexp column →
        (bindProbes keyword regexp shared rest >>= fun others => pure (probe :: others)) before =
          .ok (probes, after) →
        List.Forall₂ (Probe.IsOf keyword regexp) (column :: rest) probes := by
      intro shared probe before hprobe hrun
      obtain ⟨others, last, hrest, hpure⟩ := stateBind_eq_ok_iff.1 hrun
      obtain ⟨rfl, -⟩ := Prod.mk.inj (Except.ok.inj hpure)
      exact .cons hprobe (ih hrest)
    unfold bindProbes at h
    split_ifs at h with hnumeric
    · obtain ⟨number, middle, -, h⟩ := stateBind_eq_ok_iff.1 h
      have hequal : keyword.equal = true := by
        simp only [Bool.and_eq_true] at hnumeric
        exact hnumeric.1.1
      exact hbehind ⟨rfl, by simp [freeTextOperator, hequal], hnumeric.symm⟩ h
    · have htext : false = (keyword.equal && keyword.isNumeric && column.type.isNumeric) :=
        (Bool.eq_false_iff.2 hnumeric).symm
      cases shared with
      | some operand =>
        dsimp only at h
        rw [pure_bind] at h
        exact hbehind ⟨rfl, rfl, htext⟩ h
      | none =>
        obtain ⟨operand, middle, -, h⟩ := stateBind_eq_ok_iff.1 h
        exact hbehind ⟨rfl, rfl, htext⟩ h

/-! ### The condition of a term -/

/-- The condition of free text with the operator `not` in front of it, or without. -/
theorem Draft.condition_freeText (scope : Scope) (span : Span) {keyword : Keyword}
    (hfree : keyword.column = none) (bindings : Sql.Bindings) :
    (∃ fault, ∀ negated,
      condition scope { span with negated := negated } keyword bindings = .error fault) ∨
    ∃ probes after, List.Forall₂ (Probe.IsOf keyword span.regexp)
      (freeTextColumns scope keyword) probes ∧ ∀ negated,
        condition scope { span with negated := negated } keyword bindings =
          .ok ((freeTextCondition negated probes, false), after) := by
  cases hrun : freeTextProbes scope.selectColumns scope.whereColumns scope.enums keyword
      span.regexp scope.filterColumns bindings with
  | error fault =>
    refine .inl ⟨fault, fun negated => ?_⟩
    simp only [condition, hfree]
    change (freeTextProbes _ _ _ _ _ _ bindings >>= _) = _
    rw [hrun]
    rfl
  | ok result =>
    obtain ⟨probes, after⟩ := result
    refine .inr ⟨probes, after, forall₂_of_bindProbes hrun, fun negated => ?_⟩
    simp only [condition, hfree]
    exact stateBind_eq_ok_iff.2 ⟨probes, after, hrun, rfl⟩

/-- Free text and its negation fail alike, or both give no condition, which is where there is no
column to look in; else both have a condition, with the same parameters and the same comparisons,
and on every row the negated one is true or false, and true exactly where the plain one is not. -/
theorem Draft.condition_negated (scope : Scope) (span : Span) {keyword : Keyword}
    (hfree : keyword.column = none) (bindings : Sql.Bindings) :
    let run (negated : Bool) :=
      condition scope { span with negated := negated } keyword bindings
    (∃ fault, ∀ negated, run negated = .error fault) ∨
    (freeTextColumns scope keyword = [] ∧
      ∃ after, ∀ negated, run negated = .ok ((none, false), after)) ∨
    ∃ probes after, List.Forall₂ (Probe.IsOf keyword span.regexp)
        (freeTextColumns scope keyword) probes ∧
      (∀ negated, run negated =
        .ok ((some (freeTextFormula negated probes).text, false), after)) ∧
      ∀ {Value : Type} (row : String → Option Value) (holds : Probe → Value → Bool),
        (freeTextFormula true probes).value row holds ≠ .unknown ∧
          ((freeTextFormula true probes).value row holds = .true ↔
            (freeTextFormula false probes).value row holds ≠ .true) := by
  intro run
  rcases condition_freeText scope span hfree bindings with
    hfault | ⟨probes, after, hprobes, hrun⟩
  · exact .inl hfault
  by_cases hempty : probes = []
  · subst hempty
    exact .inr (.inl ⟨List.forall₂_nil_right_iff.1 hprobes, after, hrun⟩)
  · refine .inr (.inr ⟨probes, after, hprobes, fun negated => ?_, fun row holds =>
      value_freeTextFormula_negated probes⟩)
    rw [← freeTextCondition_eq hempty negated]
    exact hrun negated

/-- An exact number is a text in a column of texts and a number in a column of numbers. -/
theorem Draft.condition_negated_exact_number :
    let scope : Scope := {
      filterColumns := ["name", "tag", "size"]
      selectColumns := [.named "name" "w.name" .string, .named "size" "w.size" .integer]
      whereColumns := []
      sorts := []
      table := none
      resourceType := "widget"
      enums := [("name", ["small"])]
      settings := {}
      ignoreCap := false }
    let keyword : Keyword := { text := "5", type := .integer, integer := 5, equal := true }
    let run (negated : Bool) :=
      condition scope { ({} : Span) with negated := negated } keyword { stem := "fp" }
    let plain := "(CAST(w.name AS TEXT) = :fp_0 OR CAST(w.size AS NUMERIC) = 5)"
    let opposite := "((w.name IS NULL OR CAST(w.name AS TEXT) != :fp_0) AND " ++
      "(w.size IS NULL OR CAST(w.size AS NUMERIC) != 5))"
    keyword.column = none ∧ ∃ probes after,
      (∀ negated, run negated =
        .ok ((some (freeTextFormula negated probes).text, false), after)) ∧
      (freeTextFormula false probes).text = plain ∧
      (freeTextFormula true probes).text = opposite ∧
      ∀ {Value : Type} (row : String → Option Value) (holds : Probe → Value → Bool),
        (freeTextFormula true probes).value row holds ≠ .unknown ∧
          ((freeTextFormula true probes).value row holds = .true ↔
            (freeTextFormula false probes).value row holds ≠ .true) := by
  intro scope keyword run plain opposite
  have hplain : (run false).toOption.map (·.1.1) = some (some plain) := by decide +kernel
  have hopposite : (run true).toOption.map (·.1.1) = some (some opposite) := by decide +kernel
  have hfree : keyword.column = none := rfl
  refine ⟨hfree, ?_⟩
  rcases Draft.condition_negated scope {} hfree { stem := "fp" } with
    ⟨fault, hrun⟩ | ⟨-, after, hrun⟩ | ⟨probes, after, -, hrun, htruth⟩
  · rw [show run false = .error fault from hrun false] at hplain
    cases hplain
  · rw [show run false = .ok ((none, false), after) from hrun false] at hplain
    cases hplain
  · refine ⟨probes, after, hrun, ?_, ?_, htruth⟩
    · rw [show run false = _ from hrun false] at hplain
      exact Option.some.inj (Option.some.inj hplain)
    · rw [show run true = _ from hrun true] at hopposite
      exact Option.some.inj (Option.some.inj hopposite)

end ListingFilter
