import ListingFilter.Proofs.ClauseMeaning
import ListingFilter.Proofs.IsolatedConjuncts
/-!
# A listing and a count see the same rows

The statement of a listing is that of the count with a select list in the place of the number of
rows, and with the order and the page after it. The keywords that set the order and the page, the
view of the rows, leave everything else of a draft alone, so a draft without its view is what the
other keywords make of an empty one. Filters with the same other keywords are counted by the same
statement.
-/

namespace ListingFilter

/-! ### Keywords of the view -/

/-- The columns that set the order and the page of a listing. -/
def viewColumns : List String := ["first", "rows", "sort", "sort-reverse"]

/-- The keyword sets the order or the page. -/
def Keyword.isViewControl (keyword : Keyword) : Bool := keyword.column.any viewColumns.contains

/-- The keywords that set neither. -/
def withoutViewControls (keywords : List Keyword) : List Keyword :=
  keywords.filter fun keyword => !keyword.isViewControl

/-! ### Drafts without a view -/

namespace Draft

variable {scope : Scope} {draft next : Draft} {keyword : Keyword}

/-- The draft as if nothing had set its order and its page. -/
def withoutView (draft : Draft) : Draft := { draft with order := [], first := 0, max := 0 }

theorem add_viewControl (hview : keyword.isViewControl = true)
    (h : draft.add scope keyword = .ok next) : next.withoutView = draft.withoutView := by
  obtain ⟨column, hcolumn, hmem⟩ : ∃ column, keyword.column = some column ∧
      column ∈ viewColumns := by
    simpa [Keyword.isViewControl, Option.any_eq_true] using hview
  have hcontrol : column ∈ controlColumns := by
    have hsub : ∀ column ∈ viewColumns, column ∈ controlColumns := by decide
    exact hsub column hmem
  rcases add_cases h with ⟨operator, hoperator, -⟩ | ⟨hterm, -⟩ | ⟨-, other, -, -, hadd⟩ |
    ⟨-, hpermission, -⟩ | ⟨-, howner, -⟩
  · simp [Keyword.column_eq_none_of_operator hoperator] at hcolumn
  · simp [Keyword.isTerm, hcolumn, hcontrol] at hterm
  · obtain ⟨hspan, hterms, hbindings, hpermissions, howner⟩ := addControl_frame hadd
    simp only [withoutView, hspan, hterms, hbindings, hpermissions, howner]
  · obtain rfl := Option.some.inj (hcolumn.symm.trans hpermission)
    exact absurd hcontrol (by decide)
  · obtain rfl := Option.some.inj (hcolumn.symm.trans howner)
    exact absurd hcontrol (by decide)

theorem addTerm_withoutView (h : draft.addTerm scope keyword = .ok next) :
    draft.withoutView.addTerm scope keyword = .ok next.withoutView := by
  unfold addTerm at h ⊢
  cases hcondition : condition scope draft.span keyword draft.bindings with
  | error fault => simp [hcondition] at h
  | ok result =>
    rw [hcondition] at h
    obtain rfl := Except.ok.inj h
    simp only [withoutView, hcondition]

/-- Any other keyword does the same whatever the page is, and leaves it alone. -/
theorem add_withoutView (hview : keyword.isViewControl = false)
    (h : draft.add scope keyword = .ok next) :
    draft.withoutView.add scope keyword = .ok next.withoutView := by
  cases hoperator : keyword.operator? with
  | some operator =>
    simp only [add, hoperator] at h ⊢
    rw [← Except.ok.inj h]
    rfl
  | none =>
    cases hcolumn : keyword.column with
    | none =>
      simp only [add, hoperator, hcolumn] at h ⊢
      exact addTerm_withoutView h
    | some column =>
      have hother : column ∉ viewColumns := by
        simpa [Keyword.isViewControl, hcolumn] using hview
      simp only [add, hoperator, hcolumn] at h ⊢
      split_ifs at h ⊢
      · have hnone : ∀ draft : Draft, draft.addControl scope column keyword = .ok draft := by
          intro draft
          simp_all [addControl, viewColumns]
        rw [hnone] at h ⊢
        rw [Except.ok.inj h]
      · rw [← Except.ok.inj h]
        rfl
      · rw [← Except.ok.inj h]
        rfl
      · exact addTerm_withoutView h

/-- A draft without its page is what the keywords that do not set it make of it. -/
theorem foldlM_withoutView {keywords : List Keyword}
    (h : keywords.foldlM (Draft.add scope) draft = .ok next) :
    (withoutViewControls keywords).foldlM (Draft.add scope) draft.withoutView =
      .ok next.withoutView := by
  induction keywords generalizing draft with
  | nil =>
    obtain rfl := Except.ok.inj h
    rfl
  | cons keyword rest ih =>
    rw [List.foldlM_cons] at h
    obtain ⟨middle, hadd, hrest⟩ := bind_eq_ok_iff.1 h
    rw [withoutViewControls, List.filter_cons]
    cases hview : keyword.isViewControl with
    | true =>
      rw [← add_viewControl hview hadd]
      exact ih hrest
    | false =>
      rw [Bool.not_false, if_pos rfl, List.foldlM_cons, bind_eq_ok_iff]
      exact ⟨_, add_withoutView hview hadd, ih hrest⟩

end Draft

/-- Keywords that differ only in those that set the page give clauses that are counted alike. -/
theorem Clause.counting_ofKeywords {scope : Scope} {keywords keywords' : List Keyword}
    {clause clause' : Clause} (h : Clause.ofKeywords scope keywords = .ok clause)
    (h' : Clause.ofKeywords scope keywords' = .ok clause')
    (hsame : withoutViewControls keywords = withoutViewControls keywords') (type : ResourceType)
    (request : ListingRequest) (access : Access) :
    (type.counting request access clause).statement =
      (type.counting request access clause').statement := by
  obtain ⟨draft, hdraft, rfl⟩ := map_eq_ok_iff.1 h
  obtain ⟨draft', hdraft', rfl⟩ := map_eq_ok_iff.1 h'
  have hdrafts : draft.withoutView = draft'.withoutView := by
    refine Except.ok.inj ((Draft.foldlM_withoutView hdraft).symm.trans ?_)
    rw [hsame]
    exact Draft.foldlM_withoutView hdraft'
  -- the statement of a count reads nothing that a page sets
  have hcount : ∀ draft : Draft, (type.counting request access draft.clause).statement =
      (type.counting request access draft.withoutView.clause).statement := fun _ => rfl
  rw [hcount, hdrafts, ← hcount]

/-! ### Statements -/

theorem orderClause_eq_or (terms : List String) :
    orderClause terms = "" ∨ ∃ text, orderClause terms = "ORDER BY " ++ text := by
  rw [orderClause]
  split_ifs
  · exact .inl rfl
  · exact .inr ⟨_, rfl⟩

theorem conjunction_eq_or (bodies : List String) :
    conjunction bodies = "" ∨ ∃ condition, conjunction bodies = " WHERE " ++ condition := by
  rw [conjunction]
  split_ifs
  · exact .inl rfl
  · exact .inr ⟨_, rfl⟩

/-- The listing shows a page of the rows that the count counts: after the table and the condition,
which are the same and made of the conjuncts of the clause, it has only an order, a limit and an
offset, and besides the parameters of the count only the last two. -/
structure Query.ShowsPageOf (selection table : String) (access : Access) (ignorePagination : Bool)
    (listing counting : Query) : Prop where
  clause : listing.clause = counting.clause
  order : listing.clause.order = "" ∨ ∃ terms, listing.clause.order = "ORDER BY " ++ terms
  condition : conjunction (conjuncts table listing.clause access) = "" ∨
    ∃ text, conjunction (conjuncts table listing.clause access) = " WHERE " ++ text
  counted : counting.statement.sql = "SELECT count(*)" ++
    (" FROM " ++ table ++ conjunction (conjuncts table listing.clause access))
  listed : listing.statement.sql = "SELECT " ++ selection ++
    (" FROM " ++ table ++ conjunction (conjuncts table listing.clause access)) ++
      ((if listing.clause.order = "" then "" else " " ++ listing.clause.order) ++
        (if ignorePagination = false ∧ 0 < listing.clause.max then " LIMIT :limit" else "") ++
        (if ignorePagination = false ∧ 0 < listing.clause.first then " OFFSET :offset" else ""))
  params : listing.statement.params = assignAll counting.statement.params
    ((if ignorePagination = false ∧ 0 < listing.clause.max then
        [("limit", .integer listing.clause.max)] else []) ++
      (if ignorePagination = false ∧ 0 < listing.clause.first then
        [("offset", .integer listing.clause.first)] else []))

theorem ResourceType.listing_showsPageOf {type : ResourceType} {request : ListingRequest}
    {access : Access} {clause : Clause}
    (horder : clause.order = "" ∨ ∃ terms, clause.order = "ORDER BY " ++ terms) :
    (type.listing request access clause).ShowsPageOf
      (Column.selectList (type.selected request.trash)) (type.tableName request.trash) access
      request.ignorePagination (type.counting request access clause) where
  clause := rfl
  order := horder
  condition := conjunction_eq_or _
  counted := by
    rw [ResourceType.sql_counting, count_from]
    simp only [ResourceType.listing, String.append_assoc]
  listed := by
    rw [ResourceType.sql_listing, tailText, pageText]
    cases request.ignorePagination <;>
      simp [ResourceType.listing, String.append_assoc]
  params := by
    cases hignore : request.ignorePagination <;>
      simp [ResourceType.listing, ResourceType.counting, pageParams, hignore]

section Queries

variable {site : Site} {type : ResourceType} {resource : ResourceRef}
  {request request' : ListingRequest} {access : Access} {term term' : Option Json}

/-- A listing shows a page of the rows that the count of the same request counts. Two filters whose
keywords differ only in those that set the order and the page are counted by one statement. -/
theorem Site.sharesRows_query :
    (∀ listing counting, site.listing resource request access term = .ok listing →
      site.counting resource request access term = .ok counting →
      ∃ type, site.typeOf resource = .ok type ∧
        listing.ShowsPageOf (Column.selectList (type.selected request.trash))
          (type.tableName request.trash) access request.ignorePagination counting) ∧
    ∀ counting counting' keywords keywords', request'.trash = request.trash →
      request'.ignoreCap = request.ignoreCap →
      site.counting resource request access term = .ok counting →
      site.counting resource request' access term' = .ok counting' →
      site.keywordsOf request term = .ok keywords →
      site.keywordsOf request' term' = .ok keywords' →
      withoutViewControls keywords = withoutViewControls keywords' →
      counting.statement = counting'.statement := by
  refine ⟨fun listing counting hlisting hcounting => ?_, ?_⟩
  · cases htype : site.typeOf resource with
    | error fault => simp [Site.listing, htype] at hlisting
    | ok type =>
      rw [Site.listing, htype] at hlisting
      rw [Site.counting, htype] at hcounting
      obtain ⟨clause, hclause, rfl⟩ := map_eq_ok_iff.1 hlisting
      obtain ⟨clause', hclause', rfl⟩ := map_eq_ok_iff.1 hcounting
      obtain rfl := Except.ok.inj (hclause.symm.trans hclause')
      obtain ⟨keywords, hkeywords⟩ := Site.exists_ofKeywords hclause
      obtain ⟨draft, -, rfl⟩ := map_eq_ok_iff.1 hkeywords
      exact ⟨type, rfl, ResourceType.listing_showsPageOf (orderClause_eq_or draft.order)⟩
  · intro counting counting' keywords keywords' htrash hcap hcounting hcounting' hread hread' hsame
    cases htype : site.typeOf resource with
    | error fault => simp [Site.counting, htype] at hcounting
    | ok type =>
      rw [Site.counting, htype] at hcounting hcounting'
      obtain ⟨clause, hclause, rfl⟩ := map_eq_ok_iff.1 hcounting
      obtain ⟨clause', hclause', rfl⟩ := map_eq_ok_iff.1 hcounting'
      obtain ⟨found, hfound, hkeywords⟩ := Site.clauseOf_eq_ok hclause
      obtain ⟨found', hfound', hkeywords'⟩ := Site.clauseOf_eq_ok hclause'
      obtain rfl := Except.ok.inj (hfound.symm.trans hread)
      obtain rfl := Except.ok.inj (hfound'.symm.trans hread')
      rw [htrash, hcap] at hkeywords'
      rw [Clause.counting_ofKeywords hkeywords hkeywords' hsame]
      simp only [ResourceType.counting, htrash]

end Queries

/-- The order and the page of two filters differ. The listing of the first one has both bounds, and
both filters are counted by one statement. -/
theorem Site.sharesRows_task_query :
    let request : ListingRequest := { filter := .text "name=x first=3 owner=bob sort=name" }
    let request' : ListingRequest :=
      { filter := .text "rows=-1 sort-reverse=severity name=x sort=name owner=bob" }
    let access : Access :=
      { condition := "tasks.tenant = :tenant", params := [("tenant", .integer 3)] }
    ∃ listing counting counting' : Query,
      Site.listing {} (.named "task") request access none = .ok listing ∧
      Site.counting {} (.named "task") request access none = .ok counting ∧
      Site.counting {} (.named "task") request' access none = .ok counting' ∧
      listing.clause.max = 10 ∧ listing.clause.first = 2 ∧
      listing.ShowsPageOf (Column.selectList (ResourceType.taskType.selected false)) "tasks" access
        false counting ∧
      counting.statement = counting'.statement := by
  intro request request' access
  have htype : Site.typeOf {} (.named "task") = .ok ResourceType.taskType :=
    eq_ok_of_toOption (by decide +kernel)
  have hlisting : ((Site.listing {} (.named "task") request access none).map fun query =>
      (query.clause.max, query.clause.first)).toOption = some (10, 2) := by
    decide +kernel
  have hcounting : (Site.counting {} (.named "task") request access none).toOption.isSome := by
    decide +kernel
  have hcounting' : (Site.counting {} (.named "task") request' access none).toOption.isSome := by
    decide +kernel
  have hread : (Site.keywordsOf {} request none).toOption.isSome := by decide +kernel
  have hread' : (Site.keywordsOf {} request' none).toOption.isSome := by decide +kernel
  have hsame : ((Site.keywordsOf {} request none).map withoutViewControls).toOption =
      ((Site.keywordsOf {} request' none).map withoutViewControls).toOption := by
    decide +kernel
  obtain ⟨listing, hlisting, hpage⟩ := map_eq_ok_iff.1 (eq_ok_of_toOption hlisting)
  obtain ⟨counting, hcounting⟩ := Option.isSome_iff_exists.1 hcounting
  obtain ⟨counting', hcounting'⟩ := Option.isSome_iff_exists.1 hcounting'
  obtain ⟨keywords, hread⟩ := Option.isSome_iff_exists.1 hread
  obtain ⟨keywords', hread'⟩ := Option.isSome_iff_exists.1 hread'
  rw [eq_ok_of_toOption hread, eq_ok_of_toOption hread'] at hsame
  obtain ⟨hmax, hfirst⟩ := Prod.mk.inj hpage
  obtain ⟨hshows, hcounts⟩ := @Site.sharesRows_query {} (.named "task") request request' access
    none none
  obtain ⟨type, hfound, hshows⟩ := hshows listing counting hlisting (eq_ok_of_toOption hcounting)
  obtain rfl := Except.ok.inj (htype.symm.trans hfound)
  exact ⟨listing, counting, counting', hlisting, eq_ok_of_toOption hcounting,
    eq_ok_of_toOption hcounting', hmax, hfirst, hshows,
    hcounts counting counting' keywords keywords' rfl rfl (eq_ok_of_toOption hcounting)
      (eq_ok_of_toOption hcounting') (eq_ok_of_toOption hread) (eq_ok_of_toOption hread')
      (Option.some.inj hsame)⟩

end ListingFilter
