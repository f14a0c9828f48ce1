import ListingFilter.Proofs.OrderTerms
import ListingFilter.Proofs.UnknownColumns
/-!
# What the sort keywords contribute

The order of a clause is the list of what its sort keywords contribute, taken from left to right.
`SortTerm` says what one keyword contributes, if a term was produced before it and if none was;
`SortTerms` follows a list of them. The main result is `compile_order`: the order is made of the
contributions, and a sort keyword without one can be left out of the filter, if another sort keyword
stays.
-/

namespace ListingFilter

open Text (contains)

/-! ### The contribution of a keyword -/

/-- The field is one of the filter columns, as itself or in its private form. -/
def SortScope.Covers (scope : SortScope) (field : String) : Prop :=
  field ≠ "" ∧ (field ∈ scope.filterColumns ∨ "_" ++ field ∈ scope.filterColumns)

/-- The column that a field resolves to. -/
def SortScope.column? (scope : SortScope) (field : String) : Option Column :=
  Column.resolve? scope.selectColumns scope.whereColumns field

/-- The field has a template, and what the template mentions is there. -/
structure SortScope.HasTemplate (scope : SortScope) (field template : String) : Prop where
  found : lookup? scope.sorts field = some template
  written : template ≠ ""
  column : contains template columnSlot = true → ∃ column ∈ scope.column? field, column.select ≠ ""
  table : contains template tableSlot = true → ∃ table ∈ scope.table, table ≠ ""

/-- The template with the expression, the table and the direction in its slots. -/
def SortScope.fill (scope : SortScope) (field direction template : String) : Except Fault String :=
  Sql.fill [("column", (scope.column? field).map (·.select)), ("table", scope.table),
    ("direction", some direction)] template

/-- What a sort keyword contributes to the order; `produced` if a term stands before it. -/
inductive SortTerm (scope : SortScope) (field direction : String) : Bool → Option String → Prop
  | uncovered {produced : Bool} (hcovers : ¬ scope.Covers field) :
      SortTerm scope field direction produced none
  | filled {template term : String} (hcovers : scope.Covers field)
      (htemplate : scope.HasTemplate field template)
      (hfill : scope.fill field direction template = .ok term) :
      SortTerm scope field direction false (some term)
  | numeric {column : Column} (hcovers : scope.Covers field)
      (htemplate : ∀ template, ¬ scope.HasTemplate field template)
      (hcolumn : scope.column? field = some column) (htype : column.type.isNumeric = true) :
      SortTerm scope field direction false
        (some ("CAST(" ++ column.select ++ " AS NUMERIC) " ++ direction))
  | textual {column : Column} (hcovers : scope.Covers field)
      (htemplate : ∀ template, ¬ scope.HasTemplate field template)
      (hcolumn : scope.column? field = some column) (htype : column.type.isNumeric = false) :
      SortTerm scope field direction false
        (some ("lower(CAST(" ++ column.select ++ " AS TEXT)) " ++ direction))
  | unresolved (hcovers : scope.Covers field)
      (htemplate : ∀ template, ¬ scope.HasTemplate field template)
      (hcolumn : scope.column? field = none) : SortTerm scope field direction false none
  | tie {column : Column} (hcovers : scope.Covers field)
      (hcolumn : scope.column? field = some column) :
      SortTerm scope field direction true (some (column.select ++ " " ++ direction))
  | untied (hcovers : scope.Covers field) (hcolumn : scope.column? field = none) :
      SortTerm scope field direction true none

section Term

variable {scope : SortScope} {field direction template : String}

theorem filterColumnApplies_iff :
    filterColumnApplies scope.filterColumns field = true ↔ scope.Covers field := by
  rw [filterColumnApplies, SortScope.Covers, Bool.and_eq_true, bne_iff_ne, List.any_eq_true]
  refine and_congr_right fun _ => ?_
  simp only [namesColumn, Bool.or_eq_true, beq_iff_eq]
  constructor
  · rintro ⟨declared, hmem, rfl | rfl⟩
    · exact .inl hmem
    · exact .inr hmem
  · rintro (hmem | hmem)
    · exact ⟨_, hmem, .inl rfl⟩
    · exact ⟨_, hmem, .inr rfl⟩

theorem nonempty_isSome_iff {text : Option String} :
    (nonempty text).isSome = true ↔ ∃ value ∈ text, value ≠ "" := by
  cases text <;> simp [nonempty, Option.filter_some]

theorem templateTerm?_cases (scope : SortScope) (field direction : String) :
    (∃ template, scope.HasTemplate field template ∧
      templateTerm? scope field direction ((scope.column? field).map (·.select)) =
        some (scope.fill field direction template)) ∨
    ((∀ template, ¬ scope.HasTemplate field template) ∧
      templateTerm? scope field direction ((scope.column? field).map (·.select)) = none) := by
  have hready : ∀ (slot template : String) (value : Option String),
      ((nonempty value).isSome || !contains template slot) = true ↔
        (contains template slot = true → ∃ text ∈ value, text ≠ "") := by
    intro slot template value
    rw [Bool.or_eq_true, nonempty_isSome_iff, Bool.not_eq_true', ← Bool.not_eq_true,
      or_comm, ← imp_iff_not_or]
  unfold templateTerm?
  cases hwritten : nonempty (lookup? scope.sorts field) with
  | none =>
    refine .inr ⟨fun template htemplate => ?_, rfl⟩
    have hsome := nonempty_isSome_iff.2 ⟨template, htemplate.found, htemplate.written⟩
    simp [hwritten] at hsome
  | some template =>
    obtain ⟨hfound, hne⟩ := Option.filter_eq_some_iff.1 hwritten
    dsimp only
    split_ifs with hslots
    · rw [Bool.and_eq_true, hready, hready] at hslots
      refine .inl ⟨template, ⟨hfound, by simpa using hne, fun hmentions => ?_, hslots.2⟩, rfl⟩
      simpa using hslots.1 hmentions
    · refine .inr ⟨fun other hother => hslots ?_, rfl⟩
      obtain rfl : template = other := Option.some.inj (hfound.symm.trans hother.found)
      rw [Bool.and_eq_true, hready, hready]
      exact ⟨fun hmentions => by simpa using hother.column hmentions, hother.table⟩

theorem SortScope.HasTemplate.unique {other : String} (h : scope.HasTemplate field template)
    (hother : scope.HasTemplate field other) : template = other :=
  Option.some.inj (h.found.symm.trans hother.found)

theorem plainTerm_eq (column : Column) (direction : String) : plainTerm column direction =
    if column.type.isNumeric then "CAST(" ++ column.select ++ " AS NUMERIC) " ++ direction
    else "lower(CAST(" ++ column.select ++ " AS TEXT)) " ++ direction := rfl

/-- In front of all terms a covered field is ordered by its template or by its column. -/
theorem sortTerm_first_iff {term? : Option String} (hcovers : scope.Covers field) :
    SortTerm scope field direction false term? ↔
      (match templateTerm? scope field direction ((scope.column? field).map (·.select)) with
        | some term => term.map some
        | none => .ok ((scope.column? field).map (plainTerm · direction))) = .ok term? := by
  rcases templateTerm?_cases scope field direction with
    ⟨template, htemplate, hterm⟩ | ⟨htemplate, hterm⟩
  · simp only [hterm, map_eq_ok_iff]
    constructor
    · intro h
      cases h with
      | uncovered hnone => exact absurd hcovers hnone
      | @filled other term _ hother hfill => exact ⟨term, htemplate.unique hother ▸ hfill, rfl⟩
      | numeric _ hnone | textual _ hnone | unresolved _ hnone =>
        exact absurd htemplate (hnone template)
    · rintro ⟨term, hfill, rfl⟩
      exact .filled hcovers htemplate hfill
  · simp only [hterm, Except.ok.injEq]
    constructor
    · intro h
      cases h with
      | uncovered hnone => exact absurd hcovers hnone
      | filled _ hother => exact absurd hother (htemplate _)
      | numeric _ _ hcolumn htype | textual _ _ hcolumn htype =>
        simp [hcolumn, plainTerm_eq, htype]
      | unresolved _ _ hcolumn => simp [hcolumn]
    · rintro rfl
      cases hcolumn : scope.column? field with
      | none => exact .unresolved hcovers htemplate hcolumn
      | some column =>
        rw [Option.map_some, plainTerm_eq]
        split_ifs with htype
        · exact .numeric hcovers htemplate hcolumn htype
        · exact .textual hcovers htemplate hcolumn (Bool.eq_false_iff.2 htype)

/-- After a term it is ordered by the expression alone. -/
theorem sortTerm_later_iff {term? : Option String} (hcovers : scope.Covers field) :
    SortTerm scope field direction true term? ↔
      (scope.column? field).map (fun column => column.select ++ " " ++ direction) = term? := by
  constructor
  · intro h
    cases h with
    | uncovered hnone => exact absurd hcovers hnone
    | tie _ hcolumn | untied _ hcolumn => simp [hcolumn]
  · rintro rfl
    cases hcolumn : scope.column? field with
    | none => exact .untied hcovers hcolumn
    | some column => exact .tie hcovers hcolumn

theorem orderTerm_eq_ok_iff {produced : Bool} {term? : Option String} :
    orderTerm scope (!produced) field direction = .ok term? ↔
      SortTerm scope field direction produced term? := by
  unfold orderTerm
  by_cases hcovers : scope.Covers field
  · rw [if_neg (by simp [filterColumnApplies_iff.2 hcovers])]
    cases produced with
    | false =>
      rw [sortTerm_first_iff hcovers]
      rfl
    | true =>
      rw [sortTerm_later_iff hcovers]
      exact ⟨fun h => Except.ok.inj h, fun h => congrArg Except.ok h⟩
  · rw [if_pos (by simpa using mt filterColumnApplies_iff.1 hcovers), Except.ok.injEq]
    constructor
    · rintro rfl
      exact .uncovered hcovers
    · intro h
      cases h with
      | uncovered => rfl
      | filled hcovered | numeric hcovered | textual hcovered => exact absurd hcovered hcovers
      | unresolved hcovered | tie hcovered | untied hcovered => exact absurd hcovered hcovers

theorem SortTerm.unique {produced : Bool} {term? other? : Option String}
    (h : SortTerm scope field direction produced term?)
    (hother : SortTerm scope field direction produced other?) : term? = other? :=
  Except.ok.inj ((orderTerm_eq_ok_iff.2 h).symm.trans (orderTerm_eq_ok_iff.2 hother))

end Term

/-! ### The contributions in order -/

/-- The column is that of a sort keyword. -/
def isSortColumn (column : Option String) : Bool :=
  column == some "sort" || column == some "sort-reverse"

/-- The keywords that a term is sorted by. -/
def sortKeywords (keywords : List Keyword) : List Keyword :=
  keywords.filter fun keyword => isSortColumn keyword.column

/-- The direction that a keyword asks for. -/
def Keyword.direction (keyword : Keyword) : String :=
  if keyword.column = some "sort" then "ASC" else "DESC"

/-- What sort keywords contribute one after the other; `produced` if a term stands before them. -/
inductive SortTerms (scope : SortScope) : Bool → List Keyword → List (Option String) → Prop
  | nil {produced : Bool} : SortTerms scope produced [] []
  | cons {produced : Bool} {keyword : Keyword} {keywords : List Keyword} {term? : Option String}
      {terms : List (Option String)}
      (head : SortTerm scope (Text.trim keyword.text) keyword.direction produced term?)
      (tail : SortTerms scope (produced || term?.isSome) keywords terms) :
      SortTerms scope produced (keyword :: keywords) (term? :: terms)

section Drafts

variable {scope : Scope} {draft next : Draft} {keyword : Keyword}

theorem sortKeywords_cons_of_pos (h : isSortColumn keyword.column = true) (rest : List Keyword) :
    sortKeywords (keyword :: rest) = keyword :: sortKeywords rest := List.filter_cons_of_pos h

theorem sortKeywords_cons_of_neg (h : isSortColumn keyword.column = false) (rest : List Keyword) :
    sortKeywords (keyword :: rest) = sortKeywords rest := List.filter_cons_of_neg (by simp [h])

theorem Draft.add_eq_of_sort (hsort : isSortColumn keyword.column = true) :
    draft.add scope keyword =
      (orderTerm scope.toSortScope draft.order.isEmpty (Text.trim keyword.text)
        keyword.direction).map fun term? =>
          { draft with order := draft.order ++ term?.toList } := by
  obtain ⟨column, hcolumn, hname⟩ : ∃ column, keyword.column = some column ∧
      (column = "sort" ∨ column = "sort-reverse") := by
    rcases (by simpa [isSortColumn] using hsort : keyword.column = some "sort" ∨
      keyword.column = some "sort-reverse") with hcolumn | hcolumn
    · exact ⟨_, hcolumn, .inl rfl⟩
    · exact ⟨_, hcolumn, .inr rfl⟩
  have hoperator : keyword.operator? = none := by simp [Keyword.operator?, hcolumn]
  have hcontrol : controlColumns.contains column = true := by
    rcases hname with rfl | rfl <;> decide
  have hdirection : keyword.direction = sortDirection column := by
    simp [Keyword.direction, sortDirection, hcolumn]
  have hbranch : (decide (column = "sort") || decide (column = "sort-reverse")) = true := by
    simpa using hname
  simp only [add, hoperator, hcolumn, hcontrol, if_true, addControl, hbranch, hdirection]
  cases orderTerm scope.toSortScope draft.order.isEmpty (Text.trim keyword.text)
    (sortDirection column) <;> rfl

/-- A sort keyword adds its contribution to the order, and nothing else changes. -/
theorem Draft.add_sort_iff (hsort : isSortColumn keyword.column = true) :
    draft.add scope keyword = .ok next ↔
      ∃ term?, SortTerm scope.toSortScope (Text.trim keyword.text) keyword.direction
          (!draft.order.isEmpty) term? ∧
        { draft with order := draft.order ++ term?.toList } = next := by
  rw [add_eq_of_sort hsort, map_eq_ok_iff]
  simp only [← orderTerm_eq_ok_iff, Bool.not_not]

theorem Draft.order_of_not_sort (hsort : isSortColumn keyword.column = false)
    (h : draft.add scope keyword = .ok next) : next.order = draft.order := by
  rcases add_cases h with ⟨operator, -, rfl⟩ | ⟨-, hterm⟩ | ⟨-, column, -, hcolumn, hcontrol⟩ |
    ⟨-, -, rfl⟩ | ⟨-, -, rfl⟩
  · rfl
  · obtain ⟨condition?, negated, bindings, -, rfl⟩ := addTerm_cases hterm
    rfl
  · unfold addControl at hcontrol
    split_ifs at hcontrol with hname
    · simp_all [isSortColumn]
    · rw [← Except.ok.inj hcontrol]
    · rw [← Except.ok.inj hcontrol]
    · rw [← Except.ok.inj hcontrol]
  · rfl
  · rfl

/-- Whether a term stands before the next keyword. -/
theorem not_isEmpty_append (order : List String) (term? : Option String) :
    (!(order ++ term?.toList).isEmpty) = (!order.isEmpty || term?.isSome) := by
  cases term? <;> simp

/-- The order after some keywords holds what they contribute. -/
theorem Draft.exists_sortTerms {keywords : List Keyword}
    (h : keywords.foldlM (Draft.add scope) draft = .ok next) :
    ∃ terms, SortTerms scope.toSortScope (!draft.order.isEmpty) (sortKeywords keywords) terms ∧
      next.order = draft.order ++ terms.reduceOption := by
  induction keywords generalizing draft with
  | nil =>
    obtain rfl : draft = next := Except.ok.inj h
    exact ⟨[], .nil, by simp⟩
  | cons keyword rest ih =>
    obtain ⟨middle, hkeyword, hrest⟩ := bind_eq_ok_iff.1 h
    obtain ⟨terms, hterms, horder⟩ := ih hrest
    cases hsort : isSortColumn keyword.column with
    | true =>
      obtain ⟨term?, hterm, rfl⟩ := (add_sort_iff hsort).1 hkeyword
      rw [not_isEmpty_append] at hterms
      refine ⟨term? :: terms, sortKeywords_cons_of_pos hsort rest ▸ .cons hterm hterms, ?_⟩
      rw [horder]
      cases term? <;> simp
    | false =>
      have hsame := order_of_not_sort hsort hkeyword
      rw [hsame] at hterms horder
      exact ⟨terms, sortKeywords_cons_of_neg hsort rest ▸ hterms, horder⟩

/-- A keyword that contributes nothing may be left out. -/
theorem Draft.foldlM_add_erase {front back : List Keyword} {terms : List (Option String)}
    (hsort : isSortColumn keyword.column = true)
    (hterms : SortTerms scope.toSortScope (!draft.order.isEmpty)
      (sortKeywords (front ++ keyword :: back)) terms)
    (hnone : terms[(sortKeywords front).length]? = some none)
    (h : (front ++ keyword :: back).foldlM (Draft.add scope) draft = .ok next) :
    (front ++ back).foldlM (Draft.add scope) draft = .ok next := by
  induction front generalizing draft terms with
  | nil =>
    obtain ⟨middle, hkeyword, hrest⟩ := bind_eq_ok_iff.1 h
    obtain ⟨term?, hterm, rfl⟩ := (add_sort_iff hsort).1 hkeyword
    rw [List.nil_append, sortKeywords_cons_of_pos hsort] at hterms
    cases hterms with
    | cons head tail =>
      obtain rfl : term? = none := (hterm.unique head).trans (Option.some.inj hnone)
      simpa using hrest
  | cons first front ih =>
    obtain ⟨middle, hfirst, hrest⟩ := bind_eq_ok_iff.1 h
    refine bind_eq_ok_iff.2 ⟨middle, hfirst, ?_⟩
    cases hcolumn : isSortColumn first.column with
    | true =>
      obtain ⟨term?, hterm, rfl⟩ := (add_sort_iff hcolumn).1 hfirst
      rw [List.cons_append, sortKeywords_cons_of_pos hcolumn] at hterms
      rw [sortKeywords_cons_of_pos hcolumn] at hnone
      cases hterms with
      | cons head tail =>
        obtain rfl := hterm.unique head
        exact ih (by rwa [not_isEmpty_append]) (by simpa using hnone) hrest
    | false =>
      rw [List.cons_append, sortKeywords_cons_of_neg hcolumn] at hterms
      rw [sortKeywords_cons_of_neg hcolumn] at hnone
      exact ih (by rwa [order_of_not_sort hcolumn hfirst]) hnone hrest

end Drafts

/-! ### Leaving out a sort keyword -/

section Erase

variable {keyword : Keyword} {front back : List Keyword}

theorem option?_eq_none_of_sort (h : isSortColumn keyword.column = true) :
    keyword.option? = none := by
  rcases (by simpa [isSortColumn] using h : keyword.column = some "sort" ∨
    keyword.column = some "sort-reverse") with hcolumn | hcolumn <;>
    simp [Keyword.option?, hcolumn, singleUseColumns]

/-- No sort keyword is a repeated setting. -/
theorem sortKeywords_dropRepeats (seen : List String) (keywords : List Keyword) :
    sortKeywords (dropRepeats seen keywords) = sortKeywords keywords := by
  induction keywords generalizing seen with
  | nil => rfl
  | cons keyword rest ih =>
    cases hsort : isSortColumn keyword.column with
    | true =>
      rw [dropRepeats_cons_of_none (option?_eq_none_of_sort hsort), sortKeywords_cons_of_pos hsort,
        sortKeywords_cons_of_pos hsort, ih]
    | false =>
      rw [sortKeywords_cons_of_neg hsort]
      cases hoption : keyword.option? with
      | none => rw [dropRepeats_cons_of_none hoption, sortKeywords_cons_of_neg hsort, ih]
      | some option =>
        rw [dropRepeats_cons_of_some hoption]
        split_ifs
        · exact ih seen
        · rw [sortKeywords_cons_of_neg hsort, ih]

/-- A keyword that sets no option has no influence on which ones are dropped. -/
theorem dropRepeats_erase (hoption : keyword.option? = none) (seen : List String) :
    ∃ rest,
      dropRepeats seen (front ++ keyword :: back) = dropRepeats seen front ++ keyword :: rest ∧
      dropRepeats seen (front ++ back) = dropRepeats seen front ++ rest := by
  induction front generalizing seen with
  | nil => exact ⟨_, dropRepeats_cons_of_none hoption seen back, rfl⟩
  | cons first front ih =>
    simp only [List.cons_append]
    cases hfirst : first.option? with
    | none =>
      obtain ⟨rest, hwith, hwithout⟩ := ih seen
      simp only [dropRepeats_cons_of_none hfirst, hwith, hwithout]
      exact ⟨rest, rfl, rfl⟩
    | some option =>
      simp only [dropRepeats_cons_of_some hfirst]
      split_ifs with hseen
      · exact ih seen
      · obtain ⟨rest, hwith, hwithout⟩ := ih (option :: seen)
        simp only [hwith, hwithout]
        exact ⟨rest, rfl, rfl⟩

theorem setsColumn_sort_or {keywords : List Keyword} {other : Keyword} (hmem : other ∈ keywords)
    (hother : isSortColumn other.column = true) :
    setsColumn keywords "sort" = true ∨ setsColumn keywords "sort-reverse" = true := by
  rw [isSortColumn, Bool.or_eq_true] at hother
  exact hother.imp (fun h => List.any_eq_true.2 ⟨other, hmem, h⟩)
    (fun h => List.any_eq_true.2 ⟨other, hmem, h⟩)

/-- Where another sort keyword is left, the defaults are the same. -/
theorem defaultKeywords_erase (hsort : isSortColumn keyword.column = true) {other : Keyword}
    (hmem : other ∈ front ++ back) (hother : isSortColumn other.column = true)
    (defaultSort : Option String) :
    defaultKeywords defaultSort (front ++ keyword :: back) =
      defaultKeywords defaultSort (front ++ back) := by
  have hsame : ∀ column, isSortColumn (some column) = false →
      setsColumn (front ++ keyword :: back) column = setsColumn (front ++ back) column := by
    intro column hcolumn
    have hne : keyword.column ≠ some column := by
      intro heq
      rw [heq, hcolumn] at hsort
      cases hsort
    simp [setsColumn_append, setsColumn_cons, beq_false_of_ne hne]
  have hmem' : other ∈ front ++ keyword :: back := by
    simp only [List.mem_append, List.mem_cons] at hmem ⊢
    tauto
  have hset := setsColumn_sort_or hmem hother
  have hset' := setsColumn_sort_or hmem' hother
  simp only [defaultKeywords, hsame "first" rfl, hsame "rows" rfl]
  cases defaultSort with
  | none => rfl
  | some field =>
    have hsorted : ∀ keywords : List Keyword, setsColumn keywords "sort" = true ∨
        setsColumn keywords "sort-reverse" = true →
        (decide (field = "") || setsColumn keywords "sort" ||
          setsColumn keywords "sort-reverse") = true := by
      intro keywords h
      simpa [or_assoc] using Or.inr h
    simp only [hsorted _ hset, hsorted _ hset', if_true]

end Erase

section Clauses

variable {clock : Clock} {term shorter : String} {keywords : List Keyword}
  {front back : List Part} {part : Part}

/-- The sort parts of a term. -/
def sortParts (parts : List Part) : List Part :=
  parts.filter fun part => isSortColumn part.column?

theorem length_sortKeywords {parts : List Part} {read : List Keyword}
    (h : read.filterMap (·.column) = parts.filterMap Part.column?) :
    (sortKeywords read).length = (sortParts parts).length := by
  have hcount := congrArg (List.countP fun column => isSortColumn (some column)) h
  simp only [List.countP_filterMap] at hcount
  rw [sortKeywords, sortParts, ← List.countP_eq_length_filter, ← List.countP_eq_length_filter]
  calc read.countP (fun keyword => isSortColumn keyword.column)
      = _ := List.countP_congr fun keyword _ => by cases keyword.column <;> simp [isSortColumn]
    _ = _ := hcount
    _ = parts.countP (fun part => isSortColumn part.column?) :=
      List.countP_congr fun part _ => by cases part.column? <;> simp [isSortColumn]

theorem exists_sortKeyword {parts : List Part} {read : List Keyword}
    (h : read.filterMap (·.column) = parts.filterMap Part.column?) {other : Part}
    (hmem : other ∈ parts) (hsort : isSortColumn other.column? = true) :
    ∃ keyword ∈ read, isSortColumn keyword.column = true := by
  cases hcolumn : other.column? with
  | none => simp [hcolumn, isSortColumn] at hsort
  | some column =>
    have hread : column ∈ read.filterMap (·.column) :=
      h ▸ List.mem_filterMap.2 ⟨other, hmem, hcolumn⟩
    obtain ⟨keyword, hkeyword, hname⟩ := List.mem_filterMap.1 hread
    exact ⟨keyword, hkeyword, by rwa [hname, ← hcolumn]⟩

/-- The keywords of a term without one of its sort keywords. -/
theorem split_erase {defaultSort : Option String} (h : split clock term defaultSort = .ok keywords)
    (hterm : Part.ofTerm term = front ++ part :: back)
    (hshorter : Part.ofTerm shorter = front ++ back) (hsort : isSortColumn part.column? = true)
    (hother : ∃ other ∈ front ++ back, isSortColumn other.column? = true) :
    ∃ keyword before after, keywords = before ++ keyword :: after ∧
      isSortColumn keyword.column = true ∧
      (sortKeywords before).length = (sortParts front).length ∧
      split clock shorter defaultSort = .ok (before ++ after) := by
  obtain ⟨read, hread, rfl⟩ := split_eq_ok_iff.1 h
  have hparts : ∀ {part}, part ∈ front ++ back → part ∈ Part.ofTerm term := by
    intro part hpart
    rw [hterm]
    simp only [List.mem_append, List.mem_cons] at hpart ⊢
    tauto
  rw [hterm, List.mapM_append] at hread
  obtain ⟨readFront, hfront, hjoined⟩ := bind_eq_ok_iff.1 hread
  obtain ⟨readRest, hrest, hpure⟩ := bind_eq_ok_iff.1 hjoined
  obtain rfl := Except.ok.inj hpure
  rw [List.mapM_cons] at hrest
  obtain ⟨keyword, hkeyword, hlast⟩ := bind_eq_ok_iff.1 hrest
  obtain ⟨readBack, hback, hpure⟩ := bind_eq_ok_iff.1 hlast
  obtain rfl := Except.ok.inj hpure
  have hmem : part ∈ Part.ofTerm term := by
    rw [hterm]
    exact List.mem_append_right _ List.mem_cons_self
  have hsorted : isSortColumn keyword.column = true := by
    rwa [Part.column?_of_keyword hmem hkeyword]
  have hshort : (front ++ back).mapM (Part.keyword clock) = .ok (readFront ++ readBack) := by
    rw [List.mapM_append, hfront, hback]
    rfl
  have hcolumns := filterMap_column_of_mapM (fun part hpart => hparts hpart) hshort
  obtain ⟨rest, hwith, hwithout⟩ :=
    @dropRepeats_erase keyword readFront readBack (option?_eq_none_of_sort hsorted) []
  obtain ⟨part', hmem', hsort'⟩ := hother
  obtain ⟨other, hotherMem, hothersort⟩ := exists_sortKeyword hcolumns hmem' hsort'
  have hkept : other ∈ dropRepeats [] readFront ++ rest := by
    have hinSort : other ∈ sortKeywords (readFront ++ readBack) :=
      List.mem_filter.2 ⟨hotherMem, hothersort⟩
    rw [← sortKeywords_dropRepeats [], hwithout] at hinSort
    exact (List.mem_filter.1 hinSort).1
  refine ⟨keyword, dropRepeats [] readFront, rest ++ defaultKeywords defaultSort
    (dropRepeats [] readFront ++ rest), ?_, hsorted, ?_, ?_⟩
  · rw [hwith, defaultKeywords_erase hsorted hkept hothersort, List.append_assoc, List.cons_append]
  · rw [sortKeywords_dropRepeats]
    exact length_sortKeywords (filterMap_column_of_mapM
      (fun part hpart => hparts (List.mem_append_left _ hpart)) hfront)
  · rw [split_eq_ok_iff, hshorter]
    exact ⟨_, hshort, by rw [hwithout, List.append_assoc]⟩

/-- The order of a clause is what the sort keywords of its filter contribute, in order and with
commas between them. A sort keyword that contributes nothing may be left out of the filter, if
another one stays. -/
theorem compile_order {scope : Scope} {clause : Clause}
    (h : Clause.compile clock scope term = .ok clause) :
    ∃ keywords terms, split clock term scope.settings.defaultSort = .ok keywords ∧
      SortTerms scope.toSortScope false (sortKeywords keywords) terms ∧
      clause.order = (if terms.reduceOption = [] then ""
        else "ORDER BY " ++ String.intercalate ", " terms.reduceOption) ∧
      ∀ (front back : List Part) (part : Part) (shorter : String),
        Part.ofTerm term = front ++ part :: back → Part.ofTerm shorter = front ++ back →
        isSortColumn part.column? = true →
        (∃ other ∈ front ++ back, isSortColumn other.column? = true) →
        terms[(sortParts front).length]? = some none →
        Clause.compile clock scope shorter = .ok clause := by
  obtain ⟨keywords, hsplit, hclause⟩ := Clause.compile_eq_ok_iff.1 h
  obtain ⟨draft, hdraft, rfl⟩ := map_eq_ok_iff.1 hclause
  obtain ⟨terms, hterms, horder⟩ := Draft.exists_sortTerms hdraft
  refine ⟨keywords, terms, hsplit, hterms, ?_, ?_⟩
  · have hempty : draft.order = terms.reduceOption := by rw [horder]; rfl
    simp [Draft.clause, orderClause, hempty]
  · intro front back part shorter hterm hshorter hsort hother hnone
    obtain ⟨keyword, before, after, rfl, hsorted, hlength, hsplit'⟩ :=
      split_erase hsplit hterm hshorter hsort hother
    rw [← hlength] at hnone
    exact Clause.compile_eq_ok_iff.2 ⟨_, hsplit',
      map_eq_ok_iff.2 ⟨draft, Draft.foldlM_add_erase hsorted hterms hnone hdraft, rfl⟩⟩

/-- The first keyword is on no filter column, so the template of the second one comes first, and the
third one breaks ties. Without the first one the clause is the same. -/
theorem compile_order_template :
    let scope : Scope :=
      { filterColumns := ["rank", "_size"], selectColumns := [.named "_size" "t.size" .integer],
        whereColumns := [], sorts := [("rank", "\x7btable\x7d_rank \x7bdirection\x7d")],
        table := some "tasks", resourceType := "task", enums := [], settings := {},
        ignoreCap := false }
    ∃ clause keywords terms,
      Clause.compile (.whole 0) scope "sort=name sort=rank sort-reverse=size" = .ok clause ∧
      split (.whole 0) "sort=name sort=rank sort-reverse=size" scope.settings.defaultSort =
        .ok keywords ∧
      SortTerms scope.toSortScope false (sortKeywords keywords) terms ∧
      clause.order = "ORDER BY tasks_rank ASC, t.size DESC" ∧
      Clause.compile (.whole 0) scope "sort=rank sort-reverse=size" = .ok clause := by
  intro scope
  have hoption : ((Clause.compile (.whole 0) scope "sort=name sort=rank sort-reverse=size").map
      (·.order)).toOption = some "ORDER BY tasks_rank ASC, t.size DESC" := by
    decide +kernel
  obtain ⟨clause, hclause, horder⟩ := map_eq_ok_iff.1 (eq_ok_of_toOption hoption)
  obtain ⟨keywords, terms, hsplit, hterms, -, herase⟩ := compile_order hclause
  refine ⟨clause, keywords, terms, hclause, hsplit, hterms, horder, ?_⟩
  have hsorted : ∃ rest, sortKeywords keywords =
      { text := "name", column := some "sort", type := .string } :: rest := by
    have hkeywords : ((split (.whole 0) "sort=name sort=rank sort-reverse=size"
        scope.settings.defaultSort).map fun keywords => (sortKeywords keywords).head?).toOption =
          some (some { text := "name", column := some "sort", type := .string }) := by
      decide +kernel
    rw [hsplit] at hkeywords
    exact List.head?_eq_some_iff.1 (Option.some.inj hkeywords)
  obtain ⟨rest, hrest⟩ := hsorted
  rw [hrest] at hterms
  refine herase [] [⟨.column "sort" .equal, "rank", false⟩,
    ⟨.column "sort-reverse" .equal, "size", false⟩] ⟨.column "sort" .equal, "name", false⟩
    "sort=rank sort-reverse=size" (by decide +kernel) (by decide +kernel) rfl
    ⟨_, List.mem_cons_self, rfl⟩ ?_
  cases hterms with
  | cons head tail =>
    have huncovered : ¬ scope.toSortScope.Covers (Text.trim "name") := by
      rw [← filterColumnApplies_iff]
      decide +kernel
    rw [head.unique (.uncovered huncovered)]
    rfl

/-- The empty field is ordered by nothing, although it is declared and has a template that mentions
neither a column nor a table. -/
theorem compile_order_empty_field :
    let scope : Scope :=
      { filterColumns := [""], selectColumns := [], whereColumns := [],
        sorts := [("", "rank \x7bdirection\x7d")], table := some "widgets",
        resourceType := "widget", enums := [], settings := {}, ignoreCap := false }
    "" ∈ scope.filterColumns ∧
      (scope.toSortScope.fill "" "ASC" "rank \x7bdirection\x7d").toOption = some "rank ASC" ∧
      ((Clause.compile (.whole 0) scope "sort=").map (·.order)).toOption = some "" := by
  decide +kernel

end Clauses

end ListingFilter
