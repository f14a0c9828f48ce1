import Mathlib.Data.List.TakeWhile
import ListingFilter.Clause
import ListingFilter.Proofs.AlikeBindings
import ListingFilter.Proofs.ClauseMeaning
/-!
# The texts of a filter stay out of the statement

Two filters whose keywords differ in their texts only are compiled into the same condition and the
same order, with parameters of the same names. `Keyword.LooksLike` lists what a text may still show:
whether it is an operator or empty, whether a tag has a value, the field of an order, and the known
values that contain it. Each condition is alike for two such keywords, each step keeps two drafts in
agreement, and so does the whole run.
-/

namespace ListingFilter

open Sql (Binding Alike)

/-! ### Keywords that look alike -/

/-- The keywords differ in their texts at most, and the texts are the same to all that looks at
them. -/
structure Keyword.LooksLike (scope : Scope) (first second : Keyword) : Prop where
  fields : second = { first with text := second.text }
  operator : first.operator? = second.operator?
  empty : first.text = "" ↔ second.text = ""
  tag : first.column = some "tag" → ('=' ∈ first.text.toList ↔ '=' ∈ second.text.toList)
  sort : first.column = some "sort" ∨ first.column = some "sort-reverse" →
    first.text = second.text
  enums : first.operator? = none → first.column = none → first.equal = false →
    ∀ name ∈ scope.filterColumns,
      enumAllows scope.enums name first.text = enumAllows scope.enums name second.text

instance (scope : Scope) (first second : Keyword) : Decidable (first.LooksLike scope second) :=
  decidable_of_iff (_ ∧ _ ∧ _ ∧ _ ∧ _ ∧ _)
    ⟨fun h => ⟨h.1, h.2.1, h.2.2.1, h.2.2.2.1, h.2.2.2.2.1, h.2.2.2.2.2⟩,
      fun h => ⟨h.fields, h.operator, h.empty, h.tag, h.sort, h.enums⟩⟩

theorem Keyword.LooksLike.column_eq {scope : Scope} {first second : Keyword}
    (h : first.LooksLike scope second) : second.column = first.column := by
  rw [h.fields]

/-! ### Conditions -/

section Conditions

variable {keyword : Keyword} {other : String}

theorem alike_onColumn (expr : String) (type : ValueType)
    (hempty : keyword.text = "" ↔ other = "") :
    Alike (Condition.onColumn expr type keyword)
      (Condition.onColumn expr type { keyword with text := other }) := by
  unfold Condition.onColumn
  cases hrelation : keyword.relation with
  | none => exact Alike.pure none
  | approx => exact Alike.pure none
  | column comparison =>
    cases comparison with
    | approx => exact (Alike.containsPattern _ _).bind fun pattern => Alike.pure _
    | regexp => exact (Alike.literal_text _ _).bind fun pattern => Alike.pure _
    | equal | above | below =>
      refine Alike.ite Iff.rfl ((Alike.literal _).bind fun number => Alike.pure _) ?_
      refine (Alike.literal_text _ _).bind fun value => ?_
      exact Alike.ite (by simp [hempty]) (Alike.pure _) (Alike.pure _)

theorem alike_onReference (table type : String) (hempty : keyword.text = "" ↔ other = "") :
    Alike (Condition.onReference table type keyword)
      (Condition.onReference table type { keyword with text := other }) := by
  exact Alike.ite hempty (Alike.pure _) ((Alike.literal_text _ _).bind fun uuid => Alike.pure _)

theorem alike_hasTag (table resourceType tag : String) :
    Alike (Condition.hasTag table resourceType tag) (Condition.hasTag table resourceType tag) :=
  (Alike.literal_text _ _).bind fun _ => Alike.pure _

theorem alike_onTagColumn (column : String) (comparison : Comparison) (text other : String) :
    Alike (Condition.onTagColumn column comparison text)
      (Condition.onTagColumn column comparison other) := by
  cases comparison with
  | equal | regexp => exact (Alike.literal_text _ _).bind fun value => Alike.pure _
  | approx => exact (Alike.containsPattern _ _).bind fun pattern => Alike.pure _
  | above | below => exact Alike.pure none

theorem alike_onTagId (table resourceType : String) (comparison : Comparison)
    (text other : String) :
    Alike (Condition.onTagId table resourceType comparison text)
      (Condition.onTagId table resourceType comparison other) := by
  unfold Condition.onTagId
  split_ifs
  · refine (Alike.literal_text _ _).bind fun uuid => ?_
    exact (alike_hasTag _ _ _).bind fun condition => Alike.pure _
  · exact Alike.pure none

/-- The part after an equals sign is there if the sign is. -/
theorem isSome_cutAt (text : String) :
    (Text.cutAt '=' text).2.isSome = true ↔ '=' ∈ text.toList := by
  simp only [Text.cutAt]
  cases hrest : text.toList.dropWhile (· != '=') with
  | nil =>
    have hnone := List.dropWhile_eq_nil_iff.1 hrest
    simp only [Option.isSome_none, Bool.false_eq_true, false_iff]
    exact fun hmem => by simpa using hnone '=' hmem
  | cons c rest =>
    have hhead : c = '=' := by
      have := List.head?_dropWhile_not (· != '=') text.toList
      rw [hrest] at this
      simpa using this
    have hmem : c ∈ text.toList := (List.dropWhile_sublist _).subset (hrest ▸ List.mem_cons_self)
    simpa [hhead] using hhead ▸ hmem

theorem alike_onTag (table resourceType : String) (comparison : Comparison) {text other : String}
    (hvalue : '=' ∈ text.toList ↔ '=' ∈ other.toList) :
    Alike (Condition.onTag table resourceType comparison text)
      (Condition.onTag table resourceType comparison other) := by
  rw [← isSome_cutAt, ← isSome_cutAt] at hvalue
  unfold Condition.onTag
  generalize Text.cutAt '=' text = cut at hvalue
  generalize Text.cutAt '=' other = cut' at hvalue
  obtain ⟨name, value?⟩ := cut
  obtain ⟨name', value?'⟩ := cut'
  refine (alike_onTagColumn _ _ _ _).bind fun nameCondition? => ?_
  cases nameCondition? with
  | none => exact Alike.pure none
  | some nameCondition =>
    cases value? with
    | none =>
      cases value?' with
      | none =>
        refine (Alike.pure "").bind fun valueCondition => ?_
        exact (alike_hasTag _ _ _).bind fun condition => Alike.pure _
      | some value' => simp at hvalue
    | some value =>
      cases value?' with
      | none => simp at hvalue
      | some value' =>
        refine (alike_onTagColumn _ _ _ _).bind fun condition? => ?_
        refine (Alike.pure _).bind fun valueCondition => ?_
        exact (alike_hasTag _ _ _).bind fun condition => Alike.pure _

theorem alike_onTagTerm (table resourceType column : String)
    (hvalue : column ≠ "tag_id" → ('=' ∈ keyword.text.toList ↔ '=' ∈ other.toList)) :
    Alike (Condition.onTagTerm table resourceType column keyword)
      (Condition.onTagTerm table resourceType column { keyword with text := other }) := by
  unfold Condition.onTagTerm
  cases hrelation : keyword.relation with
  | none => exact Alike.pure none
  | approx => exact Alike.pure none
  | column comparison =>
    by_cases hcolumn : column = "tag_id"
    · simp only [if_pos hcolumn]
      exact alike_onTagId _ _ _ _ _
    · simp only [if_neg hcolumn]
      exact alike_onTag _ _ _ (hvalue hcolumn)

theorem alike_columnCondition (scope : Scope) (column : String)
    (hempty : keyword.text = "" ↔ other = "")
    (hvalue : column = "tag" → ('=' ∈ keyword.text.toList ↔ '=' ∈ other.toList)) :
    Alike (Draft.columnCondition scope column keyword)
      (Draft.columnCondition scope column { keyword with text := other }) := by
  unfold Draft.columnCondition
  by_cases htag : tagColumns.contains column = true
  · simp only [if_pos htag]
    have hcolumn : column ≠ "tag_id" → column = "tag" := by
      intro hne
      simpa [tagColumns, hne] using htag
    cases nonempty scope.table with
    | none => exact Alike.pure none
    | some table => exact alike_onTagTerm _ _ _ fun hne => hvalue (hcolumn hne)
  · simp only [if_neg htag]
    cases Condition.referencedType? column with
    | none =>
      cases Column.resolve? scope.selectColumns scope.whereColumns column with
      | none => exact Alike.pure none
      | some found => exact alike_onColumn _ _ hempty
    | some type =>
      cases nonempty scope.table with
      | none =>
        cases Column.resolve? scope.selectColumns scope.whereColumns column with
        | none => exact Alike.pure none
        | some found => exact alike_onColumn _ _ hempty
      | some table => exact (alike_onReference table type hempty).map some

/-! ### Free text -/

theorem alike_freeTextOperand (regexp : Bool) :
    Alike (freeTextOperand keyword regexp)
      (freeTextOperand { keyword with text := other } regexp) := by
  have hsame : freeTextOperator { keyword with text := other } regexp =
      freeTextOperator keyword regexp := rfl
  unfold freeTextOperand
  rw [hsame]
  cases freeTextOperator keyword regexp with
  | contains => exact Alike.containsPattern _ _
  | equal | regexp => exact Alike.literal_text _ _

/-- The operand is bound at the first text column, so it goes along the columns. -/
theorem alike_bindProbes (regexp : Bool) (shared : Option String) (columns : List Column) :
    Alike (bindProbes keyword regexp shared columns)
      (bindProbes { keyword with text := other } regexp shared columns) := by
  induction columns generalizing shared with
  | nil => exact Alike.pure []
  | cons column rest ih =>
    unfold bindProbes
    refine Alike.ite Iff.rfl ?_ ?_
    · refine (Alike.literal _).bind fun number => ?_
      exact (ih shared).bind fun probes => Alike.pure _
    · cases shared with
      | some operand =>
        refine (Alike.pure operand).bind fun operand => ?_
        exact (ih (some operand)).bind fun probes => Alike.pure _
      | none =>
        refine (alike_freeTextOperand regexp).bind fun operand => ?_
        exact (ih (some operand)).bind fun probes => Alike.pure _

/-- The columns that are searched for the text. -/
theorem freeTextTarget?_congr {scope : Scope}
    (henums : keyword.equal = false → ∀ name ∈ scope.filterColumns,
      enumAllows scope.enums name keyword.text = enumAllows scope.enums name other) :
    scope.filterColumns.filterMap
        (freeTextTarget? scope.selectColumns scope.whereColumns scope.enums keyword) =
      scope.filterColumns.filterMap (freeTextTarget? scope.selectColumns scope.whereColumns
        scope.enums { keyword with text := other }) := by
  refine List.filterMap_congr fun name hname => ?_
  unfold freeTextTarget?
  cases hequal : keyword.equal with
  | true => simp
  | false => simp only [henums hequal name hname]

theorem alike_freeTextProbes {scope : Scope} (regexp : Bool)
    (henums : keyword.equal = false → ∀ name ∈ scope.filterColumns,
      enumAllows scope.enums name keyword.text = enumAllows scope.enums name other) :
    Alike
      (freeTextProbes scope.selectColumns scope.whereColumns scope.enums keyword regexp
        scope.filterColumns)
      (freeTextProbes scope.selectColumns scope.whereColumns scope.enums
        { keyword with text := other } regexp scope.filterColumns) := by
  unfold freeTextProbes
  rw [freeTextTarget?_congr henums]
  exact alike_bindProbes _ _ _

end Conditions

/-! ### Drafts that agree -/

namespace Draft

variable {scope : Scope} {first second next next' : Draft} {keyword keyword' : Keyword}

/-- The condition of a term is alike for keywords that look alike. -/
theorem alike_condition (span : Span) (h : keyword.LooksLike scope keyword')
    (hoperator : keyword.operator? = none) :
    Alike (condition scope span keyword) (condition scope span keyword') := by
  unfold condition
  rw [h.column_eq]
  cases hcolumn : keyword.column with
  | none =>
    have hprobes :=
      @alike_freeTextProbes keyword keyword'.text scope span.regexp (h.enums hoperator hcolumn)
    rw [← h.fields] at hprobes
    exact hprobes.bind fun probes => Alike.pure _
  | some column =>
    have hcondition := alike_columnCondition scope column h.empty fun htag =>
      h.tag (by rw [hcolumn, htag])
    rw [← h.fields] at hcondition
    exact hcondition.bind fun condition? => Alike.pure _

/-- The drafts differ in what their parameters stand for at most, and in the page. -/
structure Agrees (first second : Draft) : Prop where
  bindings : first.bindings.SameNames second.bindings
  terms : first.terms = second.terms
  span : first.span = second.span
  order : first.order = second.order

theorem Agrees.addTerm (h : first.Agrees second) (hlooks : keyword.LooksLike scope keyword')
    (hoperator : keyword.operator? = none) (hfirst : first.addTerm scope keyword = .ok next)
    (hsecond : second.addTerm scope keyword' = .ok next') : next.Agrees next' := by
  obtain ⟨condition?, negated, bindings, hcondition, rfl⟩ := addTerm_cases hfirst
  obtain ⟨condition?', negated', bindings', hcondition', rfl⟩ := addTerm_cases hsecond
  rw [← h.span] at hcondition'
  obtain ⟨heq, hbindings⟩ :=
    alike_condition first.span hlooks hoperator h.bindings hcondition hcondition'
  obtain ⟨rfl, rfl⟩ := Prod.mk.inj heq
  refine ⟨hbindings, ?_, rfl, h.order⟩
  simp only [h.terms, h.span]

theorem Agrees.addControl {column : String} (h : first.Agrees second)
    (hlooks : keyword.LooksLike scope keyword') (hcolumn : keyword.column = some column)
    (hfirst : first.addControl scope column keyword = .ok next)
    (hsecond : second.addControl scope column keyword' = .ok next') : next.Agrees next' := by
  obtain ⟨hspan, hterms, hbindings, -⟩ := addControl_frame hfirst
  obtain ⟨hspan', hterms', hbindings', -⟩ := addControl_frame hsecond
  refine ⟨by rw [hbindings, hbindings']; exact h.bindings, by rw [hterms, hterms', h.terms],
    by rw [hspan, hspan', h.span], ?_⟩
  unfold Draft.addControl at hfirst hsecond
  split_ifs at hfirst hsecond with hsort
  · have htext : keyword'.text = keyword.text := by
      refine (hlooks.sort ?_).symm
      simpa [hcolumn] using hsort
    rw [htext, ← h.order] at hsecond
    cases hterm : orderTerm scope.toSortScope first.order.isEmpty (Text.trim keyword.text)
        (sortDirection column) with
    | error fault => simp [hterm] at hfirst
    | ok term =>
      simp only [hterm, Except.ok.injEq] at hfirst hsecond
      rw [← hfirst, ← hsecond]
  · rw [← Except.ok.inj hfirst, ← Except.ok.inj hsecond]
    exact h.order
  · rw [← Except.ok.inj hfirst, ← Except.ok.inj hsecond]
    exact h.order
  · rw [← Except.ok.inj hfirst, ← Except.ok.inj hsecond]
    exact h.order

/-- So does every keyword. -/
theorem Agrees.add (h : first.Agrees second) (hlooks : keyword.LooksLike scope keyword')
    (hfirst : first.add scope keyword = .ok next)
    (hsecond : second.add scope keyword' = .ok next') : next.Agrees next' := by
  -- both runs take the same branch, as it depends on the operator and the column only
  unfold Draft.add at hfirst hsecond
  rw [← hlooks.operator, hlooks.column_eq] at hsecond
  cases hoperator : keyword.operator? with
  | some operator =>
    simp only [hoperator, Except.ok.injEq] at hfirst hsecond
    rw [← hfirst, ← hsecond]
    exact ⟨h.bindings, h.terms, by simp only [h.span], h.order⟩
  | none =>
    cases hcolumn : keyword.column with
    | none =>
      simp only [hoperator, hcolumn] at hfirst hsecond
      exact h.addTerm hlooks hoperator hfirst hsecond
    | some column =>
      simp only [hoperator, hcolumn] at hfirst hsecond
      split_ifs at hfirst hsecond
      · exact h.addControl hlooks hcolumn hfirst hsecond
      · rw [← Except.ok.inj hfirst, ← Except.ok.inj hsecond]
        exact ⟨h.bindings, h.terms, h.span, h.order⟩
      · rw [← Except.ok.inj hfirst, ← Except.ok.inj hsecond]
        exact ⟨h.bindings, h.terms, h.span, h.order⟩
      · exact h.addTerm hlooks hoperator hfirst hsecond

/-- And so do two runs. -/
theorem Agrees.foldlM {keywords keywords' : List Keyword}
    (hlooks : List.Forall₂ (Keyword.LooksLike scope) keywords keywords')
    (h : first.Agrees second) (hfirst : keywords.foldlM (Draft.add scope) first = .ok next)
    (hsecond : keywords'.foldlM (Draft.add scope) second = .ok next') : next.Agrees next' := by
  induction hlooks generalizing first second with
  | nil =>
    obtain rfl := Except.ok.inj hfirst
    obtain rfl := Except.ok.inj hsecond
    exact h
  | cons hlooks _ ih =>
    rw [List.foldlM_cons] at hfirst hsecond
    obtain ⟨middle, hadd, hrest⟩ := bind_eq_ok_iff.1 hfirst
    obtain ⟨middle', hadd', hrest'⟩ := bind_eq_ok_iff.1 hsecond
    exact ih (h.add hlooks hadd hadd') hrest hrest'

end Draft

/-! ### The clause -/

/-- The texts of two filters that look alike enter the statement only through the parameters: the
condition, the order and the names of the parameters are the same. -/
theorem compile_text_independent {clock clock' : Clock} {scope : Scope} {term term' : String}
    {keywords keywords' : List Keyword} {clause clause' : Clause}
    (hsplit : split clock term scope.settings.defaultSort = .ok keywords)
    (hsplit' : split clock' term' scope.settings.defaultSort = .ok keywords')
    (hlooks : List.Forall₂ (Keyword.LooksLike scope) keywords keywords')
    (hclause : Clause.compile clock scope term = .ok clause)
    (hclause' : Clause.compile clock' scope term' = .ok clause') :
    clause.condition = clause'.condition ∧ clause.order = clause'.order ∧
      clause.params.map (·.1) = clause'.params.map (·.1) := by
  simp only [Clause.compile, hsplit, Clause.ofKeywords] at hclause
  simp only [Clause.compile, hsplit', Clause.ofKeywords] at hclause'
  obtain ⟨draft, hfold, rfl⟩ := map_eq_ok_iff.1 hclause
  obtain ⟨draft', hfold', rfl⟩ := map_eq_ok_iff.1 hclause'
  have hempty : (Draft.empty scope).Agrees (Draft.empty scope) := ⟨⟨rfl, rfl⟩, rfl, rfl, rfl⟩
  have hagrees := hempty.foldlM hlooks hfold hfold'
  exact ⟨by simp only [Draft.clause, hagrees.terms], by simp only [Draft.clause, hagrees.order],
    hagrees.bindings.names⟩

/-- A quotation mark, a statement and a name of a parameter stay in the parameters. -/
theorem compile_text_independent_quoted :
    let scope : Scope :=
      { filterColumns := ["name", "status"],
        selectColumns := [.named "name" "t.name" .string, .named "status" "t.status" .string],
        whereColumns := [], sorts := [], table := some "t", resourceType := "task",
        enums := [("status", ["Running", "Done"])], settings := { tableOrder := true },
        ignoreCap := false }
    let term := "name~\"a\" tag=\"k=v\" run"
    let term' := "name~\"'); DROP TABLE t; --\" tag=\"k'=:fp_0=\" N"
    ∃ clause clause', Clause.compile (.whole 0) scope term = .ok clause ∧
      Clause.compile (.whole 0) scope term' = .ok clause' ∧
      clause.condition = clause'.condition ∧ clause.order = clause'.order ∧
      clause.params.map (·.1) = clause'.params.map (·.1) := by
  intro scope term term'
  have hnames : ((Clause.compile (.whole 0) scope term).map fun clause =>
      clause.params.map (·.1)).toOption = some ["fp_0", "fp_1", "fp_2", "fp_3", "fp_4"] := by
    decide +kernel
  have hnames' : ((Clause.compile (.whole 0) scope term').map fun clause =>
      clause.params.map (·.1)).toOption = some ["fp_0", "fp_1", "fp_2", "fp_3", "fp_4"] := by
    decide +kernel
  obtain ⟨clause, hclause, -⟩ := map_eq_ok_iff.1 (eq_ok_of_toOption hnames)
  obtain ⟨clause', hclause', -⟩ := map_eq_ok_iff.1 (eq_ok_of_toOption hnames')
  have hsplit : split (.whole 0) term none = .ok
      [{ text := "a", column := some "name", relation := .column .approx, type := .string,
         quoted := true },
        { text := "k=v", column := some "tag", relation := .column .equal, type := .string,
          quoted := true },
        { text := "run", relation := .approx, type := .string },
        { text := "1", column := some "first", type := .integer, integer := 1 },
        { text := "-2", column := some "rows", type := .integer, integer := -2 }] :=
    eq_ok_of_toOption (by decide +kernel)
  have hsplit' : split (.whole 0) term' none = .ok
      [{ text := "'); DROP TABLE t; --", column := some "name", relation := .column .approx,
         type := .string, quoted := true },
        { text := "k'=:fp_0=", column := some "tag", relation := .column .equal, type := .string,
          quoted := true },
        { text := "N", relation := .approx, type := .string },
        { text := "1", column := some "first", type := .integer, integer := 1 },
        { text := "-2", column := some "rows", type := .integer, integer := -2 }] :=
    eq_ok_of_toOption (by decide +kernel)
  exact ⟨clause, clause', hclause, hclause',
    compile_text_independent hsplit hsplit' (by decide +kernel) hclause hclause'⟩

end ListingFilter
