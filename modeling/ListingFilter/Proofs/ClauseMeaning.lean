import Mathlib.Data.List.ReduceOption
import ListingFilter.Clause
import ListingFilter.Proofs.Outcomes
/-!
# The meaning of a compiled condition

The condition of a clause is described without a draft. The terms of a filter are the keywords that
are neither operators nor on a control column or one that is extracted. Each term stands with the
operators between the term before it and itself; these alone decide the words in front of its
condition and how free text is compared. `Draft.Describes` relates a draft to the keywords that it
was made from, and each step of the compilation preserves it.
-/

namespace ListingFilter

open Sql (Binding)

/-! ### Terms and the operators in front of them -/

/-- The keyword is a term. -/
def Keyword.isTerm (keyword : Keyword) : Bool :=
  keyword.operator?.isNone &&
    keyword.column.all fun column =>
      !controlColumns.contains column && !extractedColumns.contains column

theorem Keyword.column_eq_none_of_operator {keyword : Keyword} {operator : Operator}
    (h : keyword.operator? = some operator) : keyword.column = none := by
  cases hcolumn : keyword.column with
  | none => rfl
  | some column => simp [operator?, hcolumn] at h

/-- The operators after the last term. -/
def operatorsAtEnd (keywords : List Keyword) : List Operator :=
  (keywords.reverse.takeWhile fun keyword => !keyword.isTerm).filterMap Keyword.operator?

/-- A term with the operators between the term before it and itself. -/
structure Occurrence where
  operators : List Operator
  keyword : Keyword

/-- The terms among the keywords, which stand after `front`. -/
def occurrencesAfter (front : List Keyword) : List Keyword → List Occurrence
  | [] => []
  | keyword :: rest =>
    (if keyword.isTerm then [⟨operatorsAtEnd front, keyword⟩] else []) ++
      occurrencesAfter (front ++ [keyword]) rest

/-- The terms among the keywords. -/
def occurrences (keywords : List Keyword) : List Occurrence := occurrencesAfter [] keywords

theorem occurrencesAfter_append_singleton (front keywords : List Keyword) (last : Keyword) :
    occurrencesAfter front (keywords ++ [last]) =
      occurrencesAfter front keywords ++
        if last.isTerm then [⟨operatorsAtEnd (front ++ keywords), last⟩] else [] := by
  induction keywords generalizing front with
  | nil => simp [occurrencesAfter]
  | cons keyword rest ih =>
    rw [List.cons_append, occurrencesAfter, ih, occurrencesAfter, List.append_assoc,
      List.append_assoc, List.singleton_append]

theorem occurrences_append_singleton (keywords : List Keyword) (last : Keyword) :
    occurrences (keywords ++ [last]) =
      occurrences keywords ++ if last.isTerm then [⟨operatorsAtEnd keywords, last⟩] else [] :=
  occurrencesAfter_append_singleton [] keywords last

theorem operatorsAtEnd_of_isTerm {last : Keyword} (h : last.isTerm = true)
    (keywords : List Keyword) : operatorsAtEnd (keywords ++ [last]) = [] := by
  simp [operatorsAtEnd, h]

theorem operatorsAtEnd_of_not_isTerm {last : Keyword} (h : last.isTerm = false)
    (keywords : List Keyword) :
    operatorsAtEnd (keywords ++ [last]) = last.operator?.toList ++ operatorsAtEnd keywords := by
  cases hoperator : last.operator? <;> simp [operatorsAtEnd, h, hoperator]

/-! ### The condition of a term -/

namespace Occurrence

/-- The operator stands in front of the term. -/
def has (occurrence : Occurrence) (operator : Operator) : Bool :=
  occurrence.operators.contains operator

/-- The condition of the term. Free text is negated in its condition, and is a pattern after the
operator `re`. -/
def condition (scope : Scope) (occurrence : Occurrence) : Binding (Option String) :=
  match occurrence.keyword.column with
  | none => do
    let probes ← freeTextProbes scope.selectColumns scope.whereColumns scope.enums
      occurrence.keyword (occurrence.has .regexp) scope.filterColumns
    return freeTextCondition (occurrence.has .not) probes
  | some column => Draft.columnCondition scope column occurrence.keyword

/-- The words in front of the condition. -/
def words (isFirst : Bool) (occurrence : Occurrence) : String :=
  (if isFirst then "" else if occurrence.has .and then " AND " else " OR ") ++
    if occurrence.keyword.column.isSome && occurrence.has .not then "NOT " else ""

end Occurrence

/-- A term with the condition that it gives. -/
structure Emission where
  occurrence : Occurrence
  condition : String

/-- What a term gives, if it gives a condition. -/
def Occurrence.emission (scope : Scope) (occurrence : Occurrence) : Binding (Option Emission) := do
  let condition? ← occurrence.condition scope
  return condition?.map (Emission.mk occurrence)

/-- The condition with the words in front of it. -/
def Emission.text (isFirst : Bool) (emission : Emission) : String :=
  emission.occurrence.words isFirst ++ emission.condition

/-- The condition of a clause, if there is any. -/
def emittedText (emissions : List Emission) : Option String :=
  if emissions.isEmpty then none
  else some (String.join (emissions.mapIdx fun index emission => emission.text (index == 0)))

/-! ### What one keyword does to a draft -/

namespace Draft

variable {scope : Scope} {draft next : Draft} {keyword : Keyword}

/-- All that one keyword can do. -/
theorem add_cases (h : draft.add scope keyword = .ok next) :
    (∃ operator, keyword.operator? = some operator ∧
      next = { draft with span := draft.span.add operator }) ∨
    (keyword.isTerm = true ∧ draft.addTerm scope keyword = .ok next) ∨
    (keyword.operator? = none ∧ ∃ column ∈ controlColumns, keyword.column = some column ∧
      draft.addControl scope column keyword = .ok next) ∨
    (keyword.operator? = none ∧ keyword.column = some "permission" ∧
      next = { draft with permissions := draft.permissions ++ [keyword.text] }) ∨
    (keyword.operator? = none ∧ keyword.column = some "owner" ∧
      next = { draft with owner := draft.owner.or (some keyword.text) }) := by
  cases hoperator : keyword.operator? with
  | some operator =>
    rw [add, hoperator] at h
    exact .inl ⟨operator, rfl, (Except.ok.inj h).symm⟩
  | none =>
    refine .inr ?_
    cases hcolumn : keyword.column with
    | none =>
      simp only [add, hoperator, hcolumn] at h
      exact .inl ⟨by simp [Keyword.isTerm, hoperator, hcolumn], h⟩
    | some column =>
      simp only [add, hoperator, hcolumn] at h
      split_ifs at h with hcontrol hpermission howner
      · exact .inr (.inl ⟨rfl, column, by simpa using hcontrol, rfl, h⟩)
      · exact .inr (.inr (.inl ⟨rfl, by rw [hpermission], (Except.ok.inj h).symm⟩))
      · exact .inr (.inr (.inr ⟨rfl, by rw [howner], (Except.ok.inj h).symm⟩))
      · refine .inl ⟨?_, h⟩
        simp_all [Keyword.isTerm, extractedColumns]

/-- A control keyword changes nothing but the order and the page. -/
theorem addControl_frame {column : String} (h : draft.addControl scope column keyword = .ok next) :
    next.span = draft.span ∧ next.terms = draft.terms ∧ next.bindings = draft.bindings ∧
      next.permissions = draft.permissions ∧ next.owner = draft.owner := by
  unfold addControl at h
  split_ifs at h
  · cases hterm : orderTerm scope.toSortScope draft.order.isEmpty (Text.trim keyword.text)
        (sortDirection column) with
    | error fault => simp [hterm] at h
    | ok term =>
      simp only [hterm, Except.ok.injEq] at h
      simp [← h]
  · simp [← Except.ok.inj h]
  · simp [← Except.ok.inj h]
  · simp [← Except.ok.inj h]

theorem addTerm_cases (h : draft.addTerm scope keyword = .ok next) :
    ∃ condition? negated bindings,
      condition scope draft.span keyword draft.bindings = .ok ((condition?, negated), bindings) ∧
      next = { draft with
        bindings := bindings
        terms := draft.terms ++
          (condition?.map fun condition =>
            (draft.span.join draft.terms.isEmpty negated, condition)).toList
        span := {} } := by
  unfold addTerm at h
  cases hcondition : condition scope draft.span keyword draft.bindings with
  | error fault => simp [hcondition] at h
  | ok result =>
    obtain ⟨⟨condition?, negated⟩, bindings⟩ := result
    simp only [hcondition, Except.ok.injEq] at h
    refine ⟨condition?, negated, bindings, rfl, ?_⟩
    rw [← h]
    cases condition? <;> simp

end Draft

/-! ### A draft and its keywords -/

/-- The span after some operators. -/
def Span.ofOperators (operators : List Operator) : Span :=
  ⟨operators.contains .and, operators.contains .not, operators.contains .regexp⟩

theorem Span.ofOperators_cons (operator : Operator) (operators : List Operator) :
    Span.ofOperators (operator :: operators) = (Span.ofOperators operators).add operator := by
  cases operator <;> simp [Span.ofOperators, Span.add]

/-- The words in front of a condition, as a draft holds them. -/
def Occurrence.join (isFirst : Bool) (occurrence : Occurrence) : Join :=
  (Span.ofOperators occurrence.operators).join isFirst
    (occurrence.keyword.column.isSome && occurrence.has .not)

theorem Occurrence.join_text (isFirst : Bool) (occurrence : Occurrence) :
    (occurrence.join isFirst).text = occurrence.words isFirst := by
  rw [join, Span.join, words, Span.ofOperators, has, has]
  cases isFirst <;> cases occurrence.operators.contains .and <;>
    cases occurrence.keyword.column.isSome && occurrence.operators.contains .not <;> rfl

/-- The condition that a draft finds for a term is the one that the term has. -/
theorem Draft.condition_eq (scope : Scope) (occurrence : Occurrence) :
    Draft.condition scope (Span.ofOperators occurrence.operators) occurrence.keyword =
      (fun condition? => (condition?, occurrence.keyword.column.isSome && occurrence.has .not)) <$>
        occurrence.condition scope := by
  cases hcolumn : occurrence.keyword.column with
  | none =>
    simp only [Draft.condition, Occurrence.condition, hcolumn, map_bind, map_pure]
    rfl
  | some column =>
    simp only [Draft.condition, Occurrence.condition, hcolumn, map_eq_pure_bind]
    rfl

/-- The draft is what the keywords make of an empty one. -/
structure Draft.Describes (scope : Scope) (keywords : List Keyword) (draft : Draft) : Prop where
  span : draft.span = Span.ofOperators (operatorsAtEnd keywords)
  terms : ∃ emissions,
    (occurrences keywords).mapM (Occurrence.emission scope) { stem := "fp" } =
      .ok (emissions, draft.bindings) ∧
    draft.terms = emissions.reduceOption.mapIdx fun index emission =>
      (emission.occurrence.join (index == 0), emission.condition)
  permissions : draft.permissions =
    (keywords.filter fun keyword => keyword.column == some "permission").map (·.text)
  owner : draft.owner =
    (keywords.find? fun keyword => keyword.column == some "owner").map (·.text)

namespace Draft.Describes

variable {scope : Scope} {keywords : List Keyword} {draft next : Draft} {keyword : Keyword}

theorem empty (scope : Scope) : Describes scope [] (Draft.empty scope) where
  span := rfl
  terms := ⟨[], rfl, rfl⟩
  permissions := rfl
  owner := rfl

/-- The permissions and the owner after one more keyword, which may be a term or not. -/
theorem extracted (h : Describes scope keywords draft)
    (hpermissions : next.permissions =
      draft.permissions ++ if keyword.column = some "permission" then [keyword.text] else [])
    (howner : next.owner =
      draft.owner.or (if keyword.column = some "owner" then some keyword.text else none)) :
    (next.permissions = ((keywords ++ [keyword]).filter fun keyword =>
      keyword.column == some "permission").map (·.text)) ∧
    next.owner = ((keywords ++ [keyword]).find? fun keyword =>
      keyword.column == some "owner").map (·.text) := by
  rw [hpermissions, howner, h.permissions, h.owner, List.filter_append, List.map_append,
    List.find?_append, Option.map_or]
  constructor
  · split_ifs with hcolumn <;> simp [hcolumn]
  · split_ifs with hcolumn <;> simp [hcolumn]

theorem add_other (h : Describes scope keywords draft) (hterm : keyword.isTerm = false)
    (hspan : next.span = Span.ofOperators (keyword.operator?.toList ++ operatorsAtEnd keywords))
    (hterms : next.terms = draft.terms) (hbindings : next.bindings = draft.bindings)
    (hpermissions : next.permissions =
      draft.permissions ++ if keyword.column = some "permission" then [keyword.text] else [])
    (howner : next.owner =
      draft.owner.or (if keyword.column = some "owner" then some keyword.text else none)) :
    Describes scope (keywords ++ [keyword]) next where
  span := by rw [hspan, operatorsAtEnd_of_not_isTerm hterm]
  terms := by
    obtain ⟨emissions, hemissions, hjoined⟩ := h.terms
    refine ⟨emissions, ?_, by rw [hterms, hjoined]⟩
    rw [occurrences_append_singleton, hterm, hbindings]
    simpa using hemissions
  permissions := (h.extracted hpermissions howner).1
  owner := (h.extracted hpermissions howner).2

theorem add_term (h : Describes scope keywords draft) (hterm : keyword.isTerm = true)
    (hadd : draft.addTerm scope keyword = .ok next) :
    Describes scope (keywords ++ [keyword]) next := by
  obtain ⟨emissions, hemissions, hjoined⟩ := h.terms
  obtain ⟨found?, negated, bindings, hfound, rfl⟩ := addTerm_cases hadd
  have hpermission : keyword.column ≠ some "permission" := by
    intro hcolumn
    simp [Keyword.isTerm, hcolumn, extractedColumns] at hterm
  have howner : keyword.column ≠ some "owner" := by
    intro hcolumn
    simp [Keyword.isTerm, hcolumn, extractedColumns] at hterm
  have hextracted := @extracted scope keywords draft draft keyword h (by simp [hpermission])
    (by simp [howner])
  rw [h.span, condition_eq scope ⟨operatorsAtEnd keywords, keyword⟩] at hfound
  obtain ⟨condition?, hcondition, heq⟩ := stateMap_eq_ok_iff.1 hfound
  obtain ⟨rfl, rfl⟩ := Prod.mk.inj heq
  refine ⟨?_, ?_, hextracted.1, hextracted.2⟩
  · rw [operatorsAtEnd_of_isTerm hterm]
    rfl
  · have hemission : Occurrence.emission scope ⟨operatorsAtEnd keywords, keyword⟩ draft.bindings =
        .ok (condition?.map (Emission.mk ⟨operatorsAtEnd keywords, keyword⟩), bindings) := by
      exact stateBind_eq_ok_iff.2 ⟨condition?, bindings, hcondition, rfl⟩
    rw [occurrences_append_singleton, if_pos hterm]
    refine ⟨_, mapM_append_singleton_eq_ok hemissions hemission, ?_⟩
    rw [List.reduceOption_append, List.reduceOption_singleton, List.mapIdx_append, ← hjoined]
    cases condition? with
    | none => simp
    | some condition =>
      -- the condition is the first one if no term before it gave any
      have hfirst : draft.terms.isEmpty = (emissions.reduceOption.length == 0) := by
        rw [hjoined]
        cases emissions.reduceOption <;> simp
      simp [hfirst, h.span, Occurrence.join]

/-- What a keyword does to a draft keeps to the keywords. -/
theorem add (h : Describes scope keywords draft) (hadd : draft.add scope keyword = .ok next) :
    Describes scope (keywords ++ [keyword]) next := by
  rcases add_cases hadd with ⟨operator, hoperator, rfl⟩ | ⟨hterm, hadd⟩ |
    ⟨hoperator, column, hcontrol, hcolumn, hadd⟩ | ⟨hoperator, hcolumn, rfl⟩ |
    ⟨hoperator, hcolumn, rfl⟩
  · have hcolumn := Keyword.column_eq_none_of_operator hoperator
    refine h.add_other (by simp [Keyword.isTerm, hoperator]) ?_ rfl rfl (by simp [hcolumn])
      (by simp [hcolumn])
    rw [hoperator, h.span]
    exact (Span.ofOperators_cons operator _).symm
  · exact h.add_term hterm hadd
  · obtain ⟨hspan, hterms, hbindings, hpermissions, howners⟩ := addControl_frame hadd
    have hpermission : column ≠ "permission" := by
      rintro rfl
      exact absurd hcontrol (by decide)
    have howner : column ≠ "owner" := by
      rintro rfl
      exact absurd hcontrol (by decide)
    refine h.add_other ?_ ?_ hterms hbindings ?_ ?_
    · simp [Keyword.isTerm, hcolumn, hcontrol]
    · simpa [hoperator, ← h.span] using hspan
    · simpa [hcolumn, hpermission] using hpermissions
    · simpa [hcolumn, howner] using howners
  · refine h.add_other ?_ ?_ rfl rfl (by simp [hcolumn]) (by simp [hcolumn])
    · simp [Keyword.isTerm, hcolumn, extractedColumns]
    · simpa [hoperator] using h.span
  · refine h.add_other ?_ ?_ rfl rfl (by simp [hcolumn]) (by simp [hcolumn])
    · simp [Keyword.isTerm, hcolumn, extractedColumns]
    · simpa [hoperator] using h.span

/-- So do all keywords, one after the other. -/
theorem foldlM {front : List Keyword} (h : Describes scope front draft)
    (hfold : keywords.foldlM (Draft.add scope) draft = .ok next) :
    Describes scope (front ++ keywords) next := by
  induction keywords generalizing front draft with
  | nil =>
    obtain rfl : draft = next := Except.ok.inj hfold
    rwa [List.append_nil]
  | cons keyword rest ih =>
    rw [List.foldlM_cons] at hfold
    obtain ⟨middle, hadd, hrest⟩ := bind_eq_ok_iff.1 hfold
    simpa using ih (h.add hadd) hrest

end Draft.Describes

/-! ### The clause -/

/-- The text that a draft makes of its terms. -/
theorem conditionText_mapIdx (emissions : List Emission) :
    Draft.conditionText (emissions.mapIdx fun index emission =>
      (emission.occurrence.join (index == 0), emission.condition)) =
      String.join (emissions.mapIdx fun index emission => emission.text (index == 0)) := by
  rw [Draft.conditionText, List.mapIdx_eq_zipIdx_map, List.mapIdx_eq_zipIdx_map, List.map_map]
  simp only [Function.comp_def, Occurrence.join_text, Emission.text]

/-- The terms of a described draft, with the conditions that they give, make up its condition. -/
theorem Draft.Describes.exists_emissions {scope : Scope} {keywords : List Keyword} {draft : Draft}
    (h : Describes scope keywords draft) :
    ∃ emissions, (occurrences keywords).mapM (Occurrence.emission scope) { stem := "fp" } =
        .ok (emissions, draft.bindings) ∧
      draft.clause.condition = emittedText emissions.reduceOption := by
  obtain ⟨emissions, hemissions, hjoined⟩ := h.terms
  refine ⟨emissions, hemissions, ?_⟩
  rw [Draft.clause, hjoined, conditionText_mapIdx, emittedText]
  cases emissions.reduceOption <;> simp

/-- A filter is compiled in two steps. -/
theorem Clause.compile_eq_ok_iff {clock : Clock} {scope : Scope} {term : String} {clause : Clause} :
    Clause.compile clock scope term = .ok clause ↔
      ∃ keywords, split clock term scope.settings.defaultSort = .ok keywords ∧
        Clause.ofKeywords scope keywords = .ok clause := by
  rw [Clause.compile]
  cases split clock term scope.settings.defaultSort <;> simp

/-- The condition of a clause consists of the conditions of its terms in their order, each with the
words that the operators between the term before it and itself stand for. The parameters are those
of the conditions, and the permissions and the owner are what the keywords name. -/
theorem compile_meaning {clock : Clock} {scope : Scope} {term : String} {clause : Clause}
    (h : Clause.compile clock scope term = .ok clause) :
    ∃ keywords emissions bindings,
      split clock term scope.settings.defaultSort = .ok keywords ∧
      (occurrences keywords).mapM (Occurrence.emission scope) { stem := "fp" } =
        .ok (emissions, bindings) ∧
      clause.condition = emittedText emissions.reduceOption ∧
      clause.params = bindings.entries ∧
      clause.permissions =
        (keywords.filter fun keyword => keyword.column == some "permission").map (·.text) ∧
      clause.owner =
        (keywords.find? fun keyword => keyword.column == some "owner").map (·.text) := by
  obtain ⟨keywords, hsplit, hkeywords⟩ := Clause.compile_eq_ok_iff.1 h
  obtain ⟨draft, hfold, rfl⟩ := map_eq_ok_iff.1 hkeywords
  have hdescribes := (Draft.Describes.empty scope).foldlM hfold
  obtain ⟨emissions, hemissions, hcondition⟩ := hdescribes.exists_emissions
  exact ⟨keywords, emissions, draft.bindings, hsplit, hemissions, hcondition, rfl,
    hdescribes.permissions, hdescribes.owner⟩

/-- The second of four terms is negated, the third gives no condition and uses up the operator in
front of it, and the fourth is free text after `re`; the operator at the end says nothing. -/
theorem compile_three_conditions :
    let scope : Scope :=
      { filterColumns := ["name"], selectColumns := [.named "name" "t.name" .string],
        whereColumns := [], sorts := [], table := none, resourceType := "task", enums := [],
        settings := {}, ignoreCap := false }
    let term := "a and not name=b and missing=c owner=y re d permission=x owner=z not"
    ∃ clause keywords emissions bindings, Clause.compile (.whole 0) scope term = .ok clause ∧
      split (.whole 0) term (some "name") = .ok keywords ∧
      (occurrences keywords).mapM (Occurrence.emission scope) { stem := "fp" } =
        .ok (emissions, bindings) ∧
      emittedText emissions.reduceOption = some ("(CAST(t.name AS TEXT) ILIKE :fp_0)" ++
        " AND NOT (CAST(t.name AS TEXT) = :fp_1) OR (CAST(t.name AS TEXT) ~ :fp_2)") ∧
      clause.permissions = ["x"] ∧ clause.owner = some "y" := by
  intro scope term
  have hoption : ((Clause.compile (.whole 0) scope term).map fun clause =>
      (clause.condition, clause.permissions, clause.owner)).toOption =
        some (some ("(CAST(t.name AS TEXT) ILIKE :fp_0)" ++
          " AND NOT (CAST(t.name AS TEXT) = :fp_1) OR (CAST(t.name AS TEXT) ~ :fp_2)"), ["x"],
          some "y") := by
    decide +kernel
  obtain ⟨clause, hclause, hfields⟩ := map_eq_ok_iff.1 (eq_ok_of_toOption hoption)
  obtain ⟨hcondition, hrest⟩ := Prod.mk.inj hfields
  obtain ⟨hpermissions, howner⟩ := Prod.mk.inj hrest
  obtain ⟨keywords, emissions, bindings, hsplit, hemissions, htext, -⟩ := compile_meaning hclause
  exact ⟨clause, keywords, emissions, bindings, hclause, hsplit, hemissions,
    htext.symm.trans hcondition, hpermissions, howner⟩

end ListingFilter
