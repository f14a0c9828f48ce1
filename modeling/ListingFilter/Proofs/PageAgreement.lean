import Mathlib.Order.Basic
import ListingFilter.Proofs.CleanedPage
import ListingFilter.Proofs.ClauseMeaning
/-!
# Three readings of the page

A clause finds its page while it goes through the keywords, the controls of a listing take the first
keyword on each column, and a report leaves the bound of the number of rows to its caller. A term
sets the first row and the number of rows once each, so the last keyword on such a column is the
first one, and the three readings agree. The invariant of a draft is that its page is the one which
the keywords so far ask for.
-/

namespace ListingFilter

variable {clock : Clock} {settings : Settings} {ignoreCap : Bool}

/-! ### Options of settled keywords -/

section Options

variable {keywords : List Keyword} {keyword : Keyword} {option : String}

theorem controlInteger_append_of_ne (h : keyword.column ≠ some option) (fallback : Int) :
    controlInteger (keywords ++ [keyword]) option fallback =
      controlInteger keywords option fallback := by
  simp only [controlInteger]
  rw [findColumn?_append_of_ne (by simpa using h)]

/-- The keyword that sets an option at the end of settled keywords is the first one to set it. -/
theorem controlInteger_append_of_settled (hsettled : IsSettled (keywords ++ [keyword]))
    (hoption : keyword.option? = some option) (fallback : Int) :
    controlInteger (keywords ++ [keyword]) option fallback = keyword.integerValue := by
  obtain ⟨hcolumn, hsingle⟩ := Keyword.option?_eq_some_iff.1 hoption
  have hopen : findColumn? keywords option = none := by
    refine List.find?_eq_none.2 fun before hbefore hset => ?_
    have hagain : before.option? = some option :=
      Keyword.option?_eq_some_iff.2 ⟨by simpa using hset, hsingle⟩
    have hpair := (List.pairwise_append.1 hsettled).2.2 before hbefore keyword
      List.mem_cons_self
    exact hpair option hagain hoption
  rw [findColumn?] at hopen
  rw [controlInteger, findColumn?, List.find?_append, hopen, Option.none_or]
  simp [hcolumn]

end Options

/-! ### The page of a draft -/

/-- The page of the draft is the one that the keywords ask for. -/
structure Draft.ShowsPage (scope : Scope) (keywords : List Keyword) (draft : Draft) : Prop where
  first : draft.first = resolveFirst (controlInteger keywords "first" 1)
  max : draft.max =
    resolveRows scope.settings scope.ignoreCap (controlInteger keywords "rows" rowsConfigured)

namespace Draft.ShowsPage

variable {scope : Scope} {keywords : List Keyword} {draft next : Draft} {keyword : Keyword}

theorem empty (scope : Scope) : ShowsPage scope [] (Draft.empty scope) where
  first := rfl
  max := rfl

/-- A keyword that sets neither the first row nor the number of rows leaves the page alone. -/
theorem add_other (h : ShowsPage scope keywords draft) (hfirst : keyword.column ≠ some "first")
    (hrows : keyword.column ≠ some "rows") (hsame : next.first = draft.first)
    (hsame' : next.max = draft.max) : ShowsPage scope (keywords ++ [keyword]) next where
  first := by rw [hsame, h.first, controlInteger_append_of_ne hfirst]
  max := by rw [hsame', h.max, controlInteger_append_of_ne hrows]

theorem add_control (h : ShowsPage scope keywords draft)
    (hsettled : IsSettled (keywords ++ [keyword])) {column : String}
    (hcolumn : keyword.column = some column)
    (hadd : draft.addControl scope column keyword = .ok next) :
    ShowsPage scope (keywords ++ [keyword]) next := by
  unfold addControl at hadd
  split_ifs at hadd with hsort hfirst hrows
  · cases hterm : orderTerm scope.toSortScope draft.order.isEmpty (Text.trim keyword.text)
        (sortDirection column) with
    | error fault => simp [hterm] at hadd
    | ok term =>
      rw [hterm] at hadd
      obtain rfl := Except.ok.inj hadd
      refine h.add_other ?_ ?_ rfl rfl
      all_goals
        rw [hcolumn]
        rintro ⟨⟩
        simp at hsort
  · obtain rfl := Except.ok.inj hadd
    subst hfirst
    have hoption : keyword.option? = some "first" :=
      Keyword.option?_eq_some_iff.2 ⟨hcolumn, by decide⟩
    exact ⟨by rw [controlInteger_append_of_settled hsettled hoption],
      by rw [h.max, controlInteger_append_of_ne (by simp [hcolumn])]⟩
  · obtain rfl := Except.ok.inj hadd
    subst hrows
    have hoption : keyword.option? = some "rows" :=
      Keyword.option?_eq_some_iff.2 ⟨hcolumn, by decide⟩
    exact ⟨by rw [h.first, controlInteger_append_of_ne (by simp [hcolumn])],
      by rw [controlInteger_append_of_settled hsettled hoption]⟩
  · obtain rfl := Except.ok.inj hadd
    exact h.add_other (by simpa [hcolumn] using hfirst) (by simpa [hcolumn] using hrows) rfl rfl

theorem add (h : ShowsPage scope keywords draft) (hsettled : IsSettled (keywords ++ [keyword]))
    (hadd : draft.add scope keyword = .ok next) :
    ShowsPage scope (keywords ++ [keyword]) next := by
  rcases add_cases hadd with ⟨operator, hoperator, rfl⟩ | ⟨hterm, hadd⟩ |
    ⟨-, column, -, hcolumn, hadd⟩ | ⟨-, hcolumn, rfl⟩ | ⟨-, hcolumn, rfl⟩
  · have hcolumn := Keyword.column_eq_none_of_operator hoperator
    exact h.add_other (by simp [hcolumn]) (by simp [hcolumn]) rfl rfl
  · have hne : ∀ column ∈ controlColumns, keyword.column ≠ some column := by
      intro column hcontrol hcolumn
      simp [Keyword.isTerm, hcolumn, hcontrol] at hterm
    obtain ⟨condition?, negated, bindings, -, rfl⟩ := addTerm_cases hadd
    exact h.add_other (hne "first" (by decide)) (hne "rows" (by decide)) rfl rfl
  · exact h.add_control hsettled hcolumn hadd
  · exact h.add_other (by simp [hcolumn]) (by simp [hcolumn]) rfl rfl
  · exact h.add_other (by simp [hcolumn]) (by simp [hcolumn]) rfl rfl

theorem foldlM {front : List Keyword} (h : ShowsPage scope front draft)
    (hsettled : IsSettled (front ++ keywords))
    (hfold : keywords.foldlM (Draft.add scope) draft = .ok next) :
    ShowsPage scope (front ++ keywords) next := by
  induction keywords generalizing front draft with
  | nil =>
    obtain rfl : draft = next := Except.ok.inj hfold
    rwa [List.append_nil]
  | cons keyword rest ih =>
    rw [List.foldlM_cons] at hfold
    obtain ⟨middle, hadd, hrest⟩ := bind_eq_ok_iff.1 hfold
    rw [List.append_cons] at hsettled ⊢
    exact ih (h.add (List.pairwise_append.1 hsettled).1 hadd) hsettled hrest

end Draft.ShowsPage

/-- The page of a clause is the one of the controls of its keywords. -/
theorem Clause.page_eq_controlsOf {scope : Scope} {term : String} {clause : Clause}
    (h : Clause.compile clock scope term = .ok clause) :
    ∃ keywords, split clock term scope.settings.defaultSort = .ok keywords ∧
      clause.first = (controlsOf scope.settings scope.ignoreCap keywords).first ∧
      clause.max = (controlsOf scope.settings scope.ignoreCap keywords).max := by
  obtain ⟨keywords, hsplit, hkeywords⟩ := Clause.compile_eq_ok_iff.1 h
  obtain ⟨draft, hfold, rfl⟩ := map_eq_ok_iff.1 hkeywords
  have hpage := (Draft.ShowsPage.empty scope).foldlM
    (by simpa using (isSettled_of_split hsplit).1) hfold
  exact ⟨keywords, hsplit, hpage.first, hpage.max⟩

/-! ### The bounds of the page -/

/-- The page begins at a row and has a positive number of rows or all of them; a bound that counts
is kept. -/
structure FilterControls.IsWithin (settings : Settings) (ignoreCap : Bool)
    (controls : FilterControls) : Prop where
  first : 0 ≤ controls.first
  max : controls.max = rowsUnlimited ∨ 1 ≤ controls.max
  capped : 0 < settings.maxRowsPerPage → ignoreCap = false →
    1 ≤ controls.max ∧ controls.max ≤ settings.maxRowsPerPage

theorem FilterControls.isWithin (hrows : 1 ≤ settings.rowsPerPage)
    (hcap : 0 ≤ settings.maxRowsPerPage) {controls : FilterControls} {first rows : Int}
    (hfirst : controls.first = resolveFirst first)
    (hmax : controls.max = resolveRows settings ignoreCap rows) :
    controls.IsWithin settings ignoreCap := by
  refine ⟨?_, ?_, fun hpositive hcounts => ?_⟩
  · rw [hfirst, resolveFirst]
    exact le_max_right _ _
  · rw [hmax]
    exact resolveRows_eq_unlimited_or hrows hcap rows
  · have hasked := rowsAsked_eq_unlimited_or hrows rows
    have hbounds : settings.Bounds ignoreCap := ⟨hcounts, hpositive.ne'⟩
    simp only [rowsUnlimited] at hasked
    rw [hmax, resolveRows, capRows_of_bounds hbounds]
    split_ifs with hover <;> omega

/-! ### Agreement -/

section Agreement

variable {filter : Option String} {controls : FilterControls}

theorem split_empty {defaultSort : Option String} {keywords : List Keyword}
    (h : split clock "" defaultSort = .ok keywords) :
    defaultKeywords defaultSort [] = keywords := by
  obtain ⟨read, hread, rfl⟩ := split_eq_ok_iff.1 h
  obtain rfl : [] = read := Except.ok.inj hread
  rfl

/-- The controls of a listing are those of the keywords of its filter; a missing filter has the
controls of an empty one. -/
theorem listingControls_of_split {keywords : List Keyword}
    (h : split clock (filter.getD "") settings.defaultSort = .ok keywords) :
    listingControls clock settings ignoreCap filter =
      .ok (controlsOf settings ignoreCap keywords) := by
  cases filter with
  | some term => exact filterControls_eq_ok h
  | none =>
    obtain rfl := split_empty h
    rw [Settings.defaultSort]
    cases settings.tableOrder <;> rfl

theorem listingControls_eq_ok
    (h : listingControls clock settings ignoreCap filter = .ok controls) :
    ∃ first rows, controls.first = resolveFirst first ∧
      controls.max = resolveRows settings ignoreCap rows := by
  cases filter with
  | none =>
    obtain rfl := Except.ok.inj h
    exact ⟨_, _, rfl, rfl⟩
  | some term =>
    obtain ⟨keywords, -, rfl⟩ := map_eq_ok_iff.1 h
    exact ⟨_, _, rfl, rfl⟩

/-- A report has the page of the listing, but for the bound, and the same order. -/
structure ReportControls.Agrees (settings : Settings) (ignoreCap : Bool) (report : ReportControls)
    (controls : FilterControls) : Prop where
  first : report.first = controls.first
  max : capRows settings ignoreCap report.max = controls.max
  sort : report.sort = controls.sort

/-- Whatever a term says, it sets the page. -/
theorem exists_findColumn?_page {term : String} {defaultSort : Option String}
    {keywords : List Keyword} (h : split clock term defaultSort = .ok keywords) :
    (∃ keyword, findColumn? keywords "first" = some keyword) ∧
      ∃ keyword, findColumn? keywords "rows" = some keyword := by
  have hfound : ∀ column, setsColumn keywords column = true →
      ∃ keyword, findColumn? keywords column = some keyword := by
    intro column hset
    obtain ⟨keyword, hmem, hcolumn⟩ := List.any_eq_true.1 hset
    exact Option.isSome_iff_exists.1 (List.find?_isSome.2 ⟨keyword, hmem, hcolumn⟩)
  obtain ⟨hfirst, hrows, -⟩ := defaultKeywords_eq_nil_iff.1 (isSettled_of_split h).2
  exact ⟨hfound "first" hfirst, hfound "rows" hrows⟩

theorem reportControls_agrees {term : String} {report : ReportControls}
    (h : reportControls clock settings (some term) = .ok report) :
    ∃ controls, listingControls clock settings ignoreCap (some term) = .ok controls ∧
      report.Agrees settings ignoreCap controls := by
  obtain ⟨keywords, hsplit, rfl⟩ := map_eq_ok_iff.1 h
  refine ⟨_, filterControls_of_split hsplit, rfl, ?_, rfl⟩
  obtain ⟨-, keyword, hfound⟩ := exists_findColumn?_page hsplit
  simp [ReportControls.ofKeywords, controlsOf, controlInteger, hfound, resolveRows]

/-- A clause and a report have the page of the listing of the same filter, the report before the
bound, and that page is within its bounds. -/
theorem pages_agree (clock : Clock) (scope : Scope) (filter : Option String)
    (hrows : 1 ≤ scope.settings.rowsPerPage) (hcap : 0 ≤ scope.settings.maxRowsPerPage) :
    (∀ controls, listingControls clock scope.settings scope.ignoreCap filter = .ok controls →
      controls.IsWithin scope.settings scope.ignoreCap) ∧
    (∀ clause, Clause.compile clock scope (filter.getD "") = .ok clause →
      ∃ controls, listingControls clock scope.settings scope.ignoreCap filter = .ok controls ∧
        clause.first = controls.first ∧ clause.max = controls.max) ∧
    ∀ term ∈ filter, ∀ report, reportControls clock scope.settings (some term) = .ok report →
      ∃ controls, listingControls clock scope.settings scope.ignoreCap filter = .ok controls ∧
        report.Agrees scope.settings scope.ignoreCap controls := by
  refine ⟨fun controls hcontrols => ?_, fun clause hclause => ?_, ?_⟩
  · obtain ⟨first, rows, hfirst, hmax⟩ := listingControls_eq_ok hcontrols
    exact FilterControls.isWithin hrows hcap hfirst hmax
  · obtain ⟨keywords, hsplit, hfirst, hmax⟩ := Clause.page_eq_controlsOf hclause
    exact ⟨_, listingControls_of_split hsplit, hfirst, hmax⟩
  · rintro term rfl report hreport
    exact reportControls_agrees hreport

end Agreement

/-- Options that are set twice, out of range or to a fraction: the filter asks for all rows, the
report has them, and the bound is what the listing and the clause make of them. -/
theorem pages_agree_capped :
    let scope : Scope :=
      { filterColumns := ["name"], selectColumns := [.named "name" "t.name" .string],
        whereColumns := [], sorts := [], table := none, resourceType := "task", enums := [],
        settings := { rowsPerPage := 20, maxRowsPerPage := 50 }, ignoreCap := false }
    let term := "first=-3 a rows=-1.5 sort-reverse=missing sort=name first=9 rows=7"
    ∃ clause report, Clause.compile (.whole 0) scope term = .ok clause ∧
      reportControls (.whole 0) scope.settings (some term) = .ok report ∧
      listingControls (.whole 0) scope.settings scope.ignoreCap (some term) =
        .ok ⟨0, 50, ⟨"missing", false⟩⟩ ∧
      clause.first = 0 ∧ clause.max = 50 ∧ report.max = rowsUnlimited ∧
      report.Agrees scope.settings scope.ignoreCap ⟨0, 50, ⟨"missing", false⟩⟩ ∧
      FilterControls.IsWithin scope.settings scope.ignoreCap ⟨0, 50, ⟨"missing", false⟩⟩ := by
  intro scope term
  have hclause : ((Clause.compile (.whole 0) scope term).map fun _ => ()).toOption = some () := by
    decide +kernel
  have hreport : ((reportControls (.whole 0) scope.settings (some term)).map (·.max)).toOption =
      some rowsUnlimited := by
    decide +kernel
  have hcontrols : listingControls (.whole 0) scope.settings scope.ignoreCap (some term) =
      .ok ⟨0, 50, ⟨"missing", false⟩⟩ := eq_ok_of_toOption (by decide +kernel)
  obtain ⟨clause, hclause, -⟩ := map_eq_ok_iff.1 (eq_ok_of_toOption hclause)
  obtain ⟨report, hreport, hunlimited⟩ := map_eq_ok_iff.1 (eq_ok_of_toOption hreport)
  obtain ⟨hwithin, hpage, hagrees⟩ :=
    pages_agree (.whole 0) scope (some term) (by decide) (by decide)
  obtain ⟨controls, hlisted, hfirst, hmax⟩ := hpage clause hclause
  obtain ⟨controls', hlisted', hsame⟩ := hagrees term rfl report hreport
  obtain rfl := Except.ok.inj (hcontrols.symm.trans hlisted)
  obtain rfl := Except.ok.inj (hcontrols.symm.trans hlisted')
  exact ⟨clause, report, hclause, hreport, hcontrols, hfirst, hmax, hunlimited, hsame,
    hwithin _ hcontrols⟩

end ListingFilter
