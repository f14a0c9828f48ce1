import Mathlib.Data.Int.Order.Basic
import ListingFilter.Controls
import ListingFilter.Proofs.RepeatedCleaning
/-!
# The page of a cleaned term

The page and the order of a term are read off its first keywords on a column. They are found in the
cleaned term at the same place. The first row and the order stay; the number of rows is resolved
twice, once when it is written and once when the cleaned term is read. That makes a difference only
where another spelling of the configured number is written as the bound.
-/

namespace ListingFilter

open Text (isBlank)

variable {clock : Clock} {settings : Settings} {ignoreCap : Bool}

/-! ### First keywords on a column -/

section Lookup

variable {keywords : List Keyword} {column : String}

theorem findColumn?_append_of_ne {added : List Keyword}
    (h : ∀ keyword ∈ added, keyword.column ≠ some column) :
    findColumn? (keywords ++ added) column = findColumn? keywords column := by
  have hadded : findColumn? added column = none :=
    List.find?_eq_none.2 fun keyword hmem => by simpa using h keyword hmem
  rw [findColumn?, List.find?_append]
  rw [findColumn?] at hadded
  rw [hadded, Option.or_none, findColumn?]

theorem findColumn?_map_cleaned :
    findColumn? (keywords.map (Keyword.cleaned settings ignoreCap)) column =
      (findColumn? keywords column).map (Keyword.cleaned settings ignoreCap) := by
  rw [findColumn?, List.find?_map, findColumn?]
  simp only [Function.comp_def, Keyword.column_cleaned]

theorem column_of_findColumn? {keyword : Keyword} (h : findColumn? keywords column = some keyword) :
    keyword.column = some column := by
  simpa using List.find?_some h

end Lookup

namespace SortControl

variable {keywords : List Keyword}

/-- The default order does not change the order, which is the default without it. -/
theorem ofKeywords_append_default :
    ofKeywords
        (keywords ++ [{ text := defaultSortField, column := some "sort", type := .string }]) =
      ofKeywords keywords := by
  simp only [ofKeywords, List.find?_append]
  cases hfound : keywords.find? fun keyword =>
      keyword.column == some "sort" || keyword.column == some "sort-reverse" with
  | some keyword => rfl
  | none => rfl

theorem ofKeywords_map_cleaned :
    ofKeywords (keywords.map (Keyword.cleaned settings ignoreCap)) = ofKeywords keywords := by
  simp only [ofKeywords, List.find?_map, Function.comp_def, Keyword.column_cleaned]
  cases hfound : keywords.find? fun keyword =>
      keyword.column == some "sort" || keyword.column == some "sort-reverse" with
  | none => rfl
  | some keyword =>
    have hrows : keyword.column ≠ some "rows" := by
      intro hrows
      have hsort := List.find?_some hfound
      simp [hrows] at hsort
    simp [Keyword.cleaned, hrows, Keyword.reread]

end SortControl

/-! ### The number of rows -/

theorem rowsAsked_of_legal {rows : Int} (h : rows ≠ 0 ∧ -2 ≤ rows) :
    rowsAsked settings rows = if rows = rowsConfigured then settings.rowsPerPage else rows := by
  have hlow : rows ≠ rowsConfigured → rows < 1 → rows = rowsUnlimited := by
    simp only [rowsConfigured, rowsUnlimited]
    omega
  rw [rowsAsked]
  split_ifs with hconfigured hless
  · rfl
  · exact (hlow hconfigured hless).symm
  · rfl

theorem rowsAsked_eq_unlimited_or (hrows : 1 ≤ settings.rowsPerPage) (rows : Int) :
    rowsAsked settings rows = rowsUnlimited ∨ 1 ≤ rowsAsked settings rows := by
  simp only [rowsAsked]
  split_ifs with hconfigured hless
  · exact .inr hrows
  · exact .inl rfl
  · exact .inr (by omega)

theorem resolveRows_eq_unlimited_or (hrows : 1 ≤ settings.rowsPerPage)
    (hcap : 0 ≤ settings.maxRowsPerPage) (rows : Int) :
    resolveRows settings ignoreCap rows = rowsUnlimited ∨
      1 ≤ resolveRows settings ignoreCap rows := by
  have hasked := rowsAsked_eq_unlimited_or hrows rows
  by_cases hbounds : settings.Bounds ignoreCap
  · have hpositive : 1 ≤ settings.maxRowsPerPage := by
      have := hbounds.2
      omega
    rw [resolveRows, capRows_of_bounds hbounds]
    split_ifs with hover
    · exact .inr hpositive
    · exact hasked
  · rwa [resolveRows, capRows_of_not_bounds hbounds]

theorem resolveRows_resolveRows (hrows : 1 ≤ settings.rowsPerPage)
    (hcap : 0 ≤ settings.maxRowsPerPage) (rows : Int) :
    resolveRows settings ignoreCap (resolveRows settings ignoreCap rows) =
      resolveRows settings ignoreCap rows := by
  have hcapped : resolveRows settings ignoreCap rows = rowsUnlimited ∨
      1 ≤ resolveRows settings ignoreCap rows := resolveRows_eq_unlimited_or hrows hcap rows
  have hself : rowsAsked settings (resolveRows settings ignoreCap rows) =
      resolveRows settings ignoreCap rows := by
    simp only [rowsUnlimited] at hcapped
    rw [rowsAsked_of_legal (by omega), if_neg]
    simp only [rowsConfigured]
    omega
  rw [resolveRows, hself, resolveRows, capRows_capRows]

namespace Keyword

variable {keyword : Keyword}

/-- The number that is written is the one that is resolved, if the configured number has its one
spelling. -/
theorem writtenRows_eq_resolveRows (hfaithful : keyword.IsFaithful clock)
    (hlegal : keyword.IsLegal) (hcolumn : keyword.column = some "rows")
    (h : ¬ keyword.RespellsConfigured) :
    keyword.writtenRows settings ignoreCap =
      resolveRows settings ignoreCap keyword.integerValue := by
  have hvalue := (correction?_rows_eq_none_iff _).1 (hlegal "rows" (by decide) hcolumn).2
  have htext : keyword.text = "-2" ↔ keyword.integerValue = rowsConfigured := by
    constructor
    · exact integerValue_of_text hfaithful hcolumn hlegal
    · intro hinteger
      by_contra hother
      exact h ⟨hcolumn, hinteger, hother⟩
  simp only [writtenRows, resolveRows, rowsAsked_of_legal hvalue, htext]

/-- The number of rows that was written is resolved as the number that was asked for, but for
another spelling of the configured number where the bound exceeds that. -/
theorem resolveRows_writtenRows (hfaithful : keyword.IsFaithful clock)
    (hlegal : keyword.IsLegal) (hcolumn : keyword.column = some "rows")
    (hrows : 1 ≤ settings.rowsPerPage) (hcap : 0 ≤ settings.maxRowsPerPage) :
    resolveRows settings ignoreCap (keyword.writtenRows settings ignoreCap) =
        resolveRows settings ignoreCap keyword.integerValue ↔
      (keyword.RespellsConfigured →
        ¬ (settings.Bounds ignoreCap ∧ settings.rowsPerPage < settings.maxRowsPerPage)) := by
  by_cases hrespells : keyword.RespellsConfigured
  · obtain ⟨-, hinteger, htext⟩ := id hrespells
    have hconfigured : rowsAsked settings rowsConfigured = settings.rowsPerPage := if_pos rfl
    rw [writtenRows, if_neg htext, hinteger]
    by_cases hbounds : settings.Bounds ignoreCap
    · have hpositive := hbounds.2
      have hbound : capRows settings ignoreCap rowsConfigured = settings.maxRowsPerPage := by
        rw [capRows_of_bounds hbounds]
        exact if_pos (.inl (by decide))
      have hself : rowsAsked settings settings.maxRowsPerPage = settings.maxRowsPerPage := by
        rw [rowsAsked_of_legal (by omega), if_neg]
        simp only [rowsConfigured]
        omega
      simp only [hbound, resolveRows, hself, hconfigured, capRows_of_bounds hbounds, hrespells,
        hbounds, forall_const, true_and, not_lt]
      split_ifs <;> omega
    · simp [capRows_of_not_bounds hbounds, hbounds]
  · rw [writtenRows_eq_resolveRows hfaithful hlegal hcolumn hrespells,
      resolveRows_resolveRows hrows hcap]
    simp [hrespells]

end Keyword

/-! ### The controls of a cleaned term -/

/-- The page and the order that keywords ask for. -/
def controlsOf (settings : Settings) (ignoreCap : Bool) (keywords : List Keyword) :
    FilterControls where
  first := resolveFirst (controlInteger keywords "first" 1)
  max := resolveRows settings ignoreCap (controlInteger keywords "rows" rowsConfigured)
  sort := .ofKeywords keywords

section Terms

variable {term cleaned : String} {keywords : List Keyword}

theorem filterControls_of_split (h : split clock term none = .ok keywords) :
    filterControls clock settings ignoreCap term =
      .ok (controlsOf settings ignoreCap keywords) := by
  rw [filterControls, h]
  rfl

/-- The default order is at the end of the keywords, if it is there at all. -/
theorem split_none_of_split (h : split clock term settings.defaultSort = .ok keywords) :
    ∃ written, split clock term none = .ok written ∧
      (keywords = written ∨
        keywords = written ++
          [{ text := defaultSortField, column := some "sort", type := .string }]) := by
  obtain ⟨read, hread, rfl⟩ := split_eq_ok_iff.1 h
  refine ⟨_, split_eq_ok_iff.2 ⟨read, hread, rfl⟩, ?_⟩
  by_cases hset : defaultSortField = "" || setsColumn (dropRepeats [] read) "sort" ||
      setsColumn (dropRepeats [] read) "sort-reverse"
  · refine .inl ?_
    cases htable : settings.tableOrder with
    | true => simp [Settings.defaultSort, htable]
    | false => simp [Settings.defaultSort, htable, defaultKeywords, hset]
  · cases htable : settings.tableOrder with
    | true => exact .inl (by simp [Settings.defaultSort, htable])
    | false => exact .inr (by simp [Settings.defaultSort, htable, defaultKeywords, hset])

/-- The controls of a term may be read off its keywords with the default order. -/
theorem filterControls_eq_ok (h : split clock term settings.defaultSort = .ok keywords) :
    filterControls clock settings ignoreCap term =
      .ok (controlsOf settings ignoreCap keywords) := by
  obtain ⟨written, hwritten, rfl | rfl⟩ := split_none_of_split h
  · exact filterControls_of_split hwritten
  · rw [filterControls_of_split hwritten, controlsOf, controlsOf,
      SortControl.ofKeywords_append_default]
    simp [controlInteger, findColumn?_append_of_ne]

theorem first_controlsOf_cleaned :
    (controlsOf settings ignoreCap (keywords.map (Keyword.cleaned settings ignoreCap))).first =
      (controlsOf settings ignoreCap keywords).first := by
  simp only [controlsOf, controlInteger, findColumn?_map_cleaned]
  cases hfound : findColumn? keywords "first" with
  | none => rfl
  | some keyword =>
    have hrows : keyword.column ≠ some "rows" := by
      rw [column_of_findColumn? hfound]
      decide
    rw [Option.map_some, Keyword.cleaned, if_neg hrows]
    rfl

theorem max_controlsOf_cleaned_iff (hrows : 1 ≤ settings.rowsPerPage)
    (hcap : 0 ≤ settings.maxRowsPerPage)
    (hkeywords : ∀ keyword ∈ keywords, keyword.IsFaithful clock ∧ keyword.IsLegal) :
    (controlsOf settings ignoreCap (keywords.map (Keyword.cleaned settings ignoreCap))).max =
        (controlsOf settings ignoreCap keywords).max ↔
      ∀ keyword ∈ findColumn? keywords "rows", keyword.RespellsConfigured →
        ¬ (settings.Bounds ignoreCap ∧ settings.rowsPerPage < settings.maxRowsPerPage) := by
  simp only [controlsOf, controlInteger, findColumn?_map_cleaned]
  cases hfound : findColumn? keywords "rows" with
  | none => simp
  | some keyword =>
    obtain ⟨hfaithful, hlegal⟩ := hkeywords keyword (List.mem_of_find?_eq_some hfound)
    have hcolumn := column_of_findColumn? hfound
    have hinteger : (keyword.cleaned settings ignoreCap).integerValue =
        keyword.writtenRows settings ignoreCap := by
      rw [Keyword.cleaned_rows hlegal hcolumn hrows hcap]
      rfl
    simp only [Option.map_some, Option.getD_some, hinteger, Option.mem_some_iff, forall_eq']
    exact Keyword.resolveRows_writtenRows hfaithful hlegal hcolumn hrows hcap

/-- Cleaning keeps the page that a term asks for, first row, number of rows and order, but for the
number of rows where the bound was written for another spelling of the configured number. -/
theorem filterControls_clean (hrows : 1 ≤ settings.rowsPerPage)
    (hcap : 0 ≤ settings.maxRowsPerPage)
    (hblank : ∀ c ∈ term.toList, isBlank c = true → isSeparator c = true)
    (hsplit : split clock term settings.defaultSort = .ok keywords)
    (hclean : clean clock settings ignoreCap none (some term) = .ok cleaned) :
    ∃ before after, filterControls clock settings ignoreCap term = .ok before ∧
      filterControls clock settings ignoreCap cleaned = .ok after ∧
      after.first = before.first ∧ after.sort = before.sort ∧
      (after.max = before.max ↔
        ∀ keyword ∈ findColumn? keywords "rows", keyword.RespellsConfigured →
          ¬ (settings.Bounds ignoreCap ∧ settings.rowsPerPage < settings.maxRowsPerPage)) := by
  obtain ⟨rfl, hlimit⟩ := (clean_eq_ok_iff hsplit).1 hclean
  -- the cleaned term sets all defaults, so it is split alike without a default order
  have hopen : defaultKeywords none keywords = [] := by
    obtain ⟨hfirst, hrows, -⟩ := defaultKeywords_eq_nil_iff.1 (isSettled_of_split hsplit).2
    exact defaultKeywords_eq_nil_iff.2 ⟨hfirst, hrows, by simp⟩
  have hagain := split_storedTerm (by simp) hsplit hlimit hopen
  rw [← trim_storedTerm hblank hsplit] at hagain
  refine ⟨_, _, filterControls_eq_ok hsplit, filterControls_of_split hagain, ?_⟩
  rw [filter_isRemoved_none]
  exact ⟨first_controlsOf_cleaned, SortControl.ofKeywords_map_cleaned,
    max_controlsOf_cleaned_iff hrows hcap (isFaithful_of_mem_split hsplit)⟩

end Terms

/-- With a bound below the configured number the spelling of that does not matter. -/
theorem filterControls_clean_bounded :
    ∃ before after,
      filterControls (.whole 0) { rowsPerPage := 20, maxRowsPerPage := 5 } false
        "rows=-02 sort-reverse=task first=7" = .ok before ∧
      filterControls (.whole 0) { rowsPerPage := 20, maxRowsPerPage := 5 } false
        "rows=5 sort-reverse=task first=7" = .ok after ∧
      after.first = before.first ∧ after.sort = before.sort ∧ after.max = before.max := by
  have hsplit : split (.whole 0) "rows=-02 sort-reverse=task first=7"
      (Settings.defaultSort { rowsPerPage := 20, maxRowsPerPage := 5 }) = .ok
      [{ text := "-02", column := some "rows", type := .integer, integer := -2 },
        { text := "task", column := some "sort-reverse", type := .string },
        { text := "7", column := some "first", type := .integer, integer := 7 }] :=
    eq_ok_of_toOption (by decide +kernel)
  have hclean : clean (.whole 0) { rowsPerPage := 20, maxRowsPerPage := 5 } false none
      (some "rows=-02 sort-reverse=task first=7") = .ok "rows=5 sort-reverse=task first=7" :=
    eq_ok_of_toOption (by decide +kernel)
  have hblank : ("rows=-02 sort-reverse=task first=7".toList.all fun c =>
      !isBlank c || isSeparator c) = true := by decide +kernel
  obtain ⟨before, after, hbefore, hafter, hfirst, hsort, hmax⟩ :=
    filterControls_clean (by decide) (by decide)
      (fun c hc hb => by simpa [hb] using List.all_eq_true.1 hblank c hc) hsplit hclean
  exact ⟨before, after, hbefore, hafter, hfirst, hsort, hmax.2 fun _ _ _ => by decide⟩

/-- The page of a cleaned term may be another one: the configured number of rows, written in another
way, is cleaned to the bound. -/
theorem filterControls_clean_respelled :
    filterControls (.whole 0) {} false "rows=-02" = .ok ⟨0, 10, ⟨"name", true⟩⟩ ∧
      clean (.whole 0) {} false none (some "rows=-02") = .ok "rows=1000 first=1 sort=name" ∧
      filterControls (.whole 0) {} false "rows=1000 first=1 sort=name" =
        .ok ⟨0, 1000, ⟨"name", true⟩⟩ := by
  refine ⟨eq_ok_of_toOption ?_, eq_ok_of_toOption ?_, eq_ok_of_toOption ?_⟩ <;> decide +kernel

end ListingFilter
