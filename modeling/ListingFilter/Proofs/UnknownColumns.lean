import Mathlib.Order.Basic
import ListingFilter.Clause.Unknown
import ListingFilter.Proofs.ClauseMeaning
import ListingFilter.Proofs.Rereading
import ListingFilter.Proofs.Splitting
/-!
# Unknown columns are those without a condition

The unknown columns of a filter are looked for in one walk over its keywords, its conditions are
made in another. Both walks see the columns that are written in the filter, whatever the defaults
are and whatever the clock shows. A comparison with a column gives no condition exactly if the
column names neither another resource nor anything declared, so the terms on a column that the
compilation drops are those on an unknown one.
-/

namespace ListingFilter

open Sql (Binding)

/-! ### The columns written in a filter -/

/-- The column of a part. -/
def Part.column? (part : Part) : Option String :=
  match part.lead with
  | .column name _ => some name
  | _ => none

/-- The columns that are written in a term, in order and with repetitions. -/
def writtenColumns (term : String) : List String := (Part.ofTerm term).filterMap Part.column?

section Columns

variable {clock : Clock} {term : String} {keywords : List Keyword}

/-- A keyword is on the column of its part. -/
theorem Part.column?_of_keyword {part : Part} {keyword : Keyword} (hpart : part ∈ Part.ofTerm term)
    (h : part.keyword clock = .ok keyword) : keyword.column = part.column? := by
  rcases Part.keyword_cases h with ⟨hlead, rfl⟩ | ⟨hlead, value, -, rfl⟩ |
    ⟨name, comparison, value, hlead, -, hlegal⟩
  · rcases hlead with hlead | hlead <;> simp [Part.column?, hlead]
  · simp [Part.column?, hlead, Part.typed]
  · rw [Part.column?, hlead]
    rcases Keyword.legal_cases rfl (Part.lower_of_mem_ofTerm hpart hlead) hlegal with
      ⟨-, rfl⟩ | ⟨-, -, rfl⟩ | ⟨-, corrected, -, rfl⟩ | ⟨-, -, -, rfl⟩ <;> rfl

theorem filterMap_column_of_mapM {parts : List Part}
    (hparts : ∀ part ∈ parts, part ∈ Part.ofTerm term)
    (h : parts.mapM (Part.keyword clock) = .ok keywords) :
    keywords.filterMap (·.column) = parts.filterMap Part.column? := by
  induction mapM_eq_ok_iff.1 h with
  | nil => rfl
  | @cons part keyword parts keywords hkeyword hrest ih =>
    obtain ⟨hpart, hparts⟩ := List.forall_mem_cons.1 hparts
    rw [List.filterMap_cons, List.filterMap_cons, Part.column?_of_keyword hpart hkeyword,
      ih hparts (mapM_eq_ok_iff.2 hrest)]

/-- Only controls are dropped as repetitions. -/
theorem filter_columns_dropRepeats {p : String → Bool}
    (hp : ∀ column ∈ controlColumns, p column = false) (seen : List String)
    (keywords : List Keyword) :
    ((dropRepeats seen keywords).filterMap (·.column)).filter p =
      (keywords.filterMap (·.column)).filter p := by
  have hsingle : ∀ column ∈ singleUseColumns, column ∈ controlColumns := by decide
  induction keywords generalizing seen with
  | nil => rfl
  | cons keyword rest ih =>
    cases hoption : keyword.option? with
    | none =>
      rw [dropRepeats_cons_of_none hoption, List.filterMap_cons, List.filterMap_cons]
      cases keyword.column with
      | none => exact ih seen
      | some column => simp only [List.filter_cons, ih]
    | some option =>
      obtain ⟨hcolumn, hmem⟩ := Keyword.option?_eq_some_iff.1 hoption
      have hdropped := hp option (hsingle option hmem)
      rw [dropRepeats_cons_of_some hoption]
      split_ifs <;> simp [hcolumn, hdropped, ih]

/-- But for controls, the columns of the keywords are those that are written. -/
theorem filter_columns_split {defaultSort : Option String}
    (h : split clock term defaultSort = .ok keywords) {p : String → Bool}
    (hp : ∀ column ∈ controlColumns, p column = false) :
    (keywords.filterMap (·.column)).filter p = (writtenColumns term).filter p := by
  obtain ⟨read, hread, rfl⟩ := split_eq_ok_iff.1 h
  have hdefaults : ((defaultKeywords defaultSort (dropRepeats [] read)).filterMap
      (·.column)).filter p = [] := by
    refine List.filter_eq_nil_iff.2 fun column hcolumn => ?_
    obtain ⟨keyword, hkeyword, hname⟩ := List.mem_filterMap.1 hcolumn
    have hcontrol : column ∈ controlColumns := by
      rcases mem_defaultKeywords hkeyword with ⟨rfl, -⟩ | ⟨rfl, -⟩ | ⟨field, -, rfl⟩ <;>
        · obtain rfl := Option.some.inj hname
          decide
    simp [hp column hcontrol]
  rw [List.filterMap_append, List.filter_append, hdefaults, List.append_nil,
    filter_columns_dropRepeats hp, filterMap_column_of_mapM (fun _ hpart => hpart) hread,
    writtenColumns]

/-- A keyword that is no control is on a written column. -/
theorem mem_writtenColumns_of_split {defaultSort : Option String}
    (h : split clock term defaultSort = .ok keywords) {keyword : Keyword}
    (hkeyword : keyword ∈ keywords) {column : String} (hcolumn : keyword.column = some column)
    (hcontrol : column ∉ controlColumns) : column ∈ writtenColumns term := by
  have hmem : column ∈ (keywords.filterMap (·.column)).filter fun column =>
      !controlColumns.contains column :=
    List.mem_filter.2 ⟨List.mem_filterMap.2 ⟨keyword, hkeyword, hcolumn⟩, by simpa using hcontrol⟩
  rw [filter_columns_split h (by simp)] at hmem
  exact (List.mem_filter.1 hmem).1

end Columns

/-! ### The unknown ones among them -/

/-- What is kept of a list without repetitions stands in the order of its first occurrences. -/
theorem pairwise_idxOf_eraseDups (columns : List String) (p : String → Bool) :
    (columns.filter p).eraseDups.Pairwise fun before after =>
      columns.idxOf before < columns.idxOf after := by
  induction columns generalizing p with
  | nil => exact List.Pairwise.nil
  | cons column rest ih =>
    have hshift : ∀ {before after : String}, before ≠ column → after ≠ column →
        rest.idxOf before < rest.idxOf after →
          (column :: rest).idxOf before < (column :: rest).idxOf after := by
      intro before after hbefore hafter hlt
      rw [List.idxOf_cons_ne _ hbefore.symm, List.idxOf_cons_ne _ hafter.symm]
      exact Nat.succ_lt_succ hlt
    cases hcolumn : p column with
    | false =>
      rw [List.filter_cons_of_neg (by simp [hcolumn])]
      refine (ih p).imp_of_mem fun hbefore hafter hlt => ?_
      have hne : ∀ {other}, other ∈ (rest.filter p).eraseDups → other ≠ column := by
        rintro other hother rfl
        simp [List.mem_eraseDups, hcolumn] at hother
      exact hshift (hne hbefore) (hne hafter) hlt
    | true =>
      rw [List.filter_cons_of_pos hcolumn, List.eraseDups_cons, List.filter_filter]
      have hne : ∀ {other}, other ∈ (rest.filter fun other =>
          (!other == column) && p other).eraseDups → other ≠ column := by
        rintro other hother rfl
        simp [List.mem_eraseDups] at hother
      refine List.Pairwise.cons (fun after hafter => ?_) ((ih _).imp_of_mem
        fun hbefore hafter hlt => hshift (hne hbefore) (hne hafter) hlt)
      rw [List.idxOf_cons_self, List.idxOf_cons_ne _ (hne hafter).symm]
      exact Nat.succ_pos _

theorem isUnknownColumn_of_control {selected filtered : List Column} {column : String}
    (h : column ∈ controlColumns) : isUnknownColumn selected filtered column = false := by
  simp [isUnknownColumn, h]

/-- The unknown columns of a filter are those of the columns written in it. -/
theorem unknownColumns_eq_ok {clock : Clock} {selected filtered : List Column} {term : String}
    {unknown : List String} (h : unknownColumns clock selected filtered term = .ok unknown) :
    unknown = ((writtenColumns term).filter (isUnknownColumn selected filtered)).eraseDups := by
  obtain ⟨keywords, hsplit, rfl⟩ := map_eq_ok_iff.1 h
  rw [unknownAmong, filter_columns_split hsplit fun column => isUnknownColumn_of_control]

/-! ### Conditions that are there -/

/-- What the computation gives satisfies `holds`, whatever is bound before it. -/
def Yields {α : Type} (holds : α → Prop) (binding : Binding α) : Prop :=
  ∀ before value after, binding before = .ok (value, after) → holds value

namespace Yields

variable {α β : Type} {holds : α → Prop} {holds' : β → Prop}

theorem pure {value : α} (h : holds value) : Yields holds (Pure.pure value) := by
  intro before result after hresult
  obtain ⟨rfl, -⟩ := Prod.mk.inj (Except.ok.inj hresult)
  exact h

theorem bind {first : Binding α} {next : α → Binding β} (h : ∀ value, Yields holds' (next value)) :
    Yields holds' (first >>= next) := by
  intro before result after hresult
  obtain ⟨value, middle, -, hnext⟩ := stateBind_eq_ok_iff.1 hresult
  exact h value middle result after hnext

theorem map {first : Binding α} {f : α → β} (h : Yields (fun value => holds' (f value)) first) :
    Yields holds' (f <$> first) := by
  intro before result after hresult
  obtain ⟨value, hvalue, rfl⟩ := stateMap_eq_ok_iff.1 hresult
  exact h before value after hvalue

end Yields

/-- A comparison with a column always gives a condition. -/
theorem Condition.yields_onColumn {expr : String} {type : ValueType} {keyword : Keyword}
    {comparison : Comparison} (h : keyword.relation = .column comparison) :
    Yields (· ≠ none) (Condition.onColumn expr type keyword) := by
  unfold Condition.onColumn
  rw [h]
  cases comparison with
  | approx | regexp => exact Yields.bind fun pattern => Yields.pure (Option.some_ne_none _)
  | equal | above | below =>
    simp only [Comparison.operator?]
    split_ifs <;> exact Yields.bind fun value => Yields.pure (Option.some_ne_none _)

/-- A comparison gives no condition exactly if its column names neither another resource nor
anything declared. -/
theorem Draft.yields_columnCondition {scope : Scope} {column table : String} {keyword : Keyword}
    {comparison : Comparison} (htable : nonempty scope.table = some table)
    (htag : column ∉ tagColumns) (hrelation : keyword.relation = .column comparison) :
    Yields (fun condition? => condition? = none ↔ Condition.referencedType? column = none ∧
        Column.resolve? scope.selectColumns scope.whereColumns column = none)
      (Draft.columnCondition scope column keyword) := by
  unfold Draft.columnCondition
  simp only [htable, List.contains_eq_mem, decide_eq_true_eq, if_neg htag]
  cases hreference : Condition.referencedType? column with
  | some type =>
    refine Yields.map ?_
    intro before condition after _
    simp
  | none =>
    cases hfound : Column.resolve? scope.selectColumns scope.whereColumns column with
    | none => exact Yields.pure (by simp)
    | some found =>
      intro before condition? after hcondition
      simpa using Condition.yields_onColumn hrelation before condition? after hcondition

/-- A keyword on a column that is no control compares the column. -/
theorem Keyword.exists_comparison_of_split {clock : Clock} {term : String}
    {defaultSort : Option String} {keywords : List Keyword}
    (h : split clock term defaultSort = .ok keywords) {keyword : Keyword}
    (hkeyword : keyword ∈ keywords) {column : String} (hcolumn : keyword.column = some column)
    (hcontrol : column ∉ controlColumns) :
    ∃ comparison, keyword.relation = .column comparison := by
  rcases part_or_default_of_split h hkeyword with ⟨part, hpart, hpart'⟩ | ⟨written, hdefault⟩
  · rcases Part.keyword_cases hpart' with ⟨-, rfl⟩ | ⟨-, value, -, rfl⟩ |
      ⟨name, comparison, value, hlead, -, hlegal⟩
    · simp at hcolumn
    · cases hcolumn
    · have hname := Part.lower_of_mem_ofTerm hpart hlead
      have hsame := Part.column?_of_keyword hpart hpart'
      rw [Part.column?, hlead, hcolumn] at hsame
      obtain rfl : column = name := Option.some.inj hsame
      rw [Keyword.legal_of_not_control rfl hname hcontrol] at hlegal
      obtain rfl := Except.ok.inj hlegal
      exact ⟨comparison, rfl⟩
  · refine absurd ?_ hcontrol
    rcases mem_defaultKeywords hdefault with ⟨rfl, -⟩ | ⟨rfl, -⟩ | ⟨field, -, rfl⟩ <;>
      · obtain rfl := Option.some.inj hcolumn
        decide

/-! ### The terms of a filter -/

theorem map_keyword_occurrences (keywords : List Keyword) :
    (occurrences keywords).map (·.keyword) = keywords.filter Keyword.isTerm := by
  have hafter : ∀ front, (occurrencesAfter front keywords).map (·.keyword) =
      keywords.filter Keyword.isTerm := by
    induction keywords with
    | nil => exact fun _ => rfl
    | cons keyword rest ih =>
      intro front
      rw [occurrencesAfter, List.map_append, ih, List.filter_cons]
      split_ifs <;> rfl
  exact hafter []

section Emissions

variable {scope : Scope} {occurrence : Occurrence} {emission? : Option Emission}
  {before after : Sql.Bindings} {column : String}

theorem Occurrence.emission_eq_none_iff {table : String} {comparison : Comparison}
    (htable : nonempty scope.table = some table)
    (hcolumn : occurrence.keyword.column = some column) (htag : column ∉ tagColumns)
    (hrelation : occurrence.keyword.relation = .column comparison)
    (h : occurrence.emission scope before = .ok (emission?, after)) :
    emission? = none ↔ Condition.referencedType? column = none ∧
      Column.resolve? scope.selectColumns scope.whereColumns column = none := by
  obtain ⟨condition?, middle, hcondition, hpure⟩ := stateBind_eq_ok_iff.1 h
  obtain ⟨rfl, -⟩ := Prod.mk.inj (Except.ok.inj hpure)
  simp only [Occurrence.condition, hcolumn] at hcondition
  rw [Option.map_eq_none_iff]
  exact Draft.yields_columnCondition htable htag hrelation before condition? middle hcondition

/-- A term on a column that names no tag gives no condition exactly if the column is among the
unknown ones. -/
theorem Occurrence.emission_eq_none_iff_unknown {clock : Clock} {term : String}
    {defaultSort : Option String} {keywords : List Keyword} {table : String}
    (hsplit : split clock term defaultSort = .ok keywords)
    (hterm : occurrence.keyword ∈ keywords.filter Keyword.isTerm)
    (htable : nonempty scope.table = some table)
    (hcolumn : occurrence.keyword.column = some column) (htag : column ∉ tagColumns)
    (h : occurrence.emission scope before = .ok (emission?, after)) :
    emission? = none ↔ column ∈ ((writtenColumns term).filter
      (isUnknownColumn scope.selectColumns scope.whereColumns)).eraseDups := by
  obtain ⟨hkeyword, hterm⟩ := List.mem_filter.1 hterm
  obtain ⟨hcontrol, hextracted⟩ : column ∉ controlColumns ∧ column ∉ extractedColumns := by
    simpa [Keyword.isTerm, hcolumn] using (Bool.and_eq_true_iff.1 hterm).2
  obtain ⟨comparison, hrelation⟩ :=
    Keyword.exists_comparison_of_split hsplit hkeyword hcolumn hcontrol
  have hwritten := mem_writtenColumns_of_split hsplit hkeyword hcolumn hcontrol
  rw [Occurrence.emission_eq_none_iff htable hcolumn htag hrelation h, List.mem_eraseDups,
    List.mem_filter, and_iff_right hwritten]
  simp [isUnknownColumn, hcontrol, hextracted, htag]

end Emissions

/-- The terms on a column that give no condition are those on an unknown column, unless they are
about tags. The unknown columns are written in the filter; each stands among them once, in the order
of their first occurrences. -/
theorem Registry.conditions_match_unknownColumns {registry : Registry} {clock clock' : Clock}
    {name : Option String} {type : ResourceType} {options : CompileOptions} {term : String}
    {clause : Clause} {unknown : List String} (hfind : registry.find name = .ok type)
    (htable : type.tableName options.trash ≠ "")
    (hclause : registry.compile clock name options term = .ok clause)
    (hunknown : unknownColumns clock' (type.selected options.trash) (type.filtered options.trash)
      term = .ok unknown) :
    (∃ keywords emissions bindings,
      split clock term options.settings.defaultSort = .ok keywords ∧
      (occurrences keywords).mapM (Occurrence.emission (registry.typeScope type options))
        { stem := "fp" } = .ok (emissions, bindings) ∧
      clause.condition = emittedText emissions.reduceOption ∧
      List.Forall₂ (fun keyword emission? => ∀ column ∈ keyword.column, column ∉ tagColumns →
        (emission? = none ↔ column ∈ unknown)) (keywords.filter Keyword.isTerm) emissions) ∧
    unknown.Nodup ∧ (∀ column ∈ unknown, column ∈ writtenColumns term) ∧
    unknown.Pairwise fun before after =>
      (writtenColumns term).idxOf before < (writtenColumns term).idxOf after := by
  obtain rfl := unknownColumns_eq_ok hunknown
  have horder := pairwise_idxOf_eraseDups (writtenColumns term)
    (isUnknownColumn (type.selected options.trash) (type.filtered options.trash))
  refine ⟨?_, horder.imp fun hlt heq => hlt.ne (by rw [heq]), fun column hcolumn => ?_, horder⟩
  · rw [Registry.compile, hfind] at hclause
    obtain ⟨keywords, hsplit, hkeywords⟩ := Clause.compile_eq_ok_iff.1 hclause
    obtain ⟨draft, hdraft, rfl⟩ := map_eq_ok_iff.1 hkeywords
    obtain ⟨emissions, hemissions, htext⟩ :=
      ((Draft.Describes.empty _).foldlM hdraft).exists_emissions
    refine ⟨keywords, emissions, _, hsplit, hemissions, htext, ?_⟩
    have hscope : nonempty (registry.typeScope type options).table =
        some (type.tableName options.trash) :=
      Option.filter_eq_some_iff.2 ⟨rfl, by simpa using htable⟩
    have hterms : ∀ occurrence ∈ occurrences keywords,
        occurrence.keyword ∈ keywords.filter Keyword.isTerm := by
      intro occurrence hmem
      rw [← map_keyword_occurrences]
      exact List.mem_map_of_mem hmem
    rw [← map_keyword_occurrences, List.forall₂_map_left_iff]
    refine ((List.forall₂_and_left _ _).2 ⟨hterms, forall₂_of_mapM_eq_ok hemissions⟩).imp ?_
    rintro occurrence emission? ⟨hterm, before, after, hemission⟩ column hcolumn htag
    have hunknown :=
      Occurrence.emission_eq_none_iff_unknown hsplit hterm hscope hcolumn htag hemission
    exact hunknown
  · exact (List.mem_filter.1 (List.mem_eraseDups.1 hcolumn)).1

/-- Two unknown columns, one of them in two spellings, between a column, a reference and an
owner. -/
theorem Registry.conditions_match_unknownColumns_note :
    let type : ResourceType := .declare
      { name := "note", table := "notes", filterColumns := ["text"]
        selectColumns := [.named "_text" "\x7btable\x7d.text" .string] }
    let registry : Registry := [("note", type)]
    let options : CompileOptions := { trash := true }
    let term := "zone=1 text~a Bogus>2 task_id=b bogus~3 owner=c"
    ∃ clause keywords emissions bindings,
      registry.find (some "Note ") = .ok type ∧ type.tableName options.trash ≠ "" ∧
      registry.compile (.whole 0) (some "Note ") options term = .ok clause ∧
      unknownColumns (.whole 9) (type.selected options.trash) (type.filtered options.trash) term =
        .ok ["zone", "bogus"] ∧
      split (.whole 0) term options.settings.defaultSort = .ok keywords ∧
      (occurrences keywords).mapM (Occurrence.emission (registry.typeScope type options))
        { stem := "fp" } = .ok (emissions, bindings) ∧
      List.Forall₂ (fun keyword emission? => ∀ column ∈ keyword.column, column ∉ tagColumns →
        (emission? = none ↔ column ∈ ["zone", "bogus"])) (keywords.filter Keyword.isTerm)
        emissions := by
  intro type registry options term
  have hfind : registry.find (some "Note ") = .ok type := eq_ok_of_toOption (by decide +kernel)
  have htable : type.tableName options.trash ≠ "" := by decide +kernel
  have hreturns : (registry.compile (.whole 0) (some "Note ") options
      term).toOption.isSome = true := by
    decide +kernel
  have hunknown : unknownColumns (.whole 9) (type.selected options.trash)
      (type.filtered options.trash) term = .ok ["zone", "bogus"] :=
    eq_ok_of_toOption (by decide +kernel)
  obtain ⟨clause, hclause⟩ := Option.isSome_iff_exists.1 hreturns
  have hcompile := eq_ok_of_toOption hclause
  obtain ⟨⟨keywords, emissions, bindings, hsplit, hemissions, -, hmatch⟩, -⟩ :=
    Registry.conditions_match_unknownColumns hfind htable hcompile hunknown
  exact ⟨clause, keywords, emissions, bindings, hfind, htable, hcompile, hunknown, hsplit,
    hemissions, hmatch⟩

end ListingFilter
