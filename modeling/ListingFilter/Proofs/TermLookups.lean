import ListingFilter.Proofs.ControlSettings
/-!
# Looking a column up in a term

A look-up gives the text of the first keyword that is written on the column, also if that keyword is
one of several of which only the first counts. It goes through the defaults as well, so on the first
row, the number of rows and the order it finds a text where nothing is written. On every other
column it finds none there.
-/

namespace ListingFilter

section Lookup

variable {clock : Clock} {term name : String} {keyword : Keyword} {keywords written : List Keyword}

/-! ### Keywords on a column -/

/-- The keyword is on the column `name` or on its private form, in any case of letters. -/
def Keyword.IsOn (name : String) (keyword : Keyword) : Prop :=
  ∃ column, keyword.column = some column ∧
    (Text.lower column = Text.lower name ∨ Text.lower column = "_" ++ Text.lower name)

theorem Keyword.columnIs_iff : keyword.columnIs name = true ↔ keyword.IsOn name := by
  unfold Keyword.columnIs Keyword.IsOn
  cases keyword.column <;> simp

/-- The keyword is the first one on the column. -/
def IsFirstOn (name : String) (keywords : List Keyword) (keyword : Keyword) : Prop :=
  ∃ front back, keywords = front ++ keyword :: back ∧ keyword.IsOn name ∧
    ∀ earlier ∈ front, ¬ earlier.IsOn name

theorem find?_columnIs_eq_some_iff :
    keywords.find? (·.columnIs name) = some keyword ↔ IsFirstOn name keywords keyword := by
  rw [List.find?_eq_some_iff_append, IsFirstOn]
  simp only [← Keyword.columnIs_iff, Bool.not_eq_true', Bool.not_eq_true]
  constructor
  · rintro ⟨hon, front, back, hkeywords, hfront⟩
    exact ⟨front, back, hkeywords, hon, hfront⟩
  · rintro ⟨front, back, hkeywords, hon, hfront⟩
    exact ⟨hon, front, back, hkeywords, hfront⟩

theorem find?_columnIs_eq_none_iff :
    keywords.find? (·.columnIs name) = none ↔ ∀ keyword ∈ keywords, ¬ keyword.IsOn name := by
  simp only [List.find?_eq_none, Keyword.columnIs_iff]

/-- What is dropped as a repetition is first on no column. -/
theorem find?_columnIs_dropRepeats (name : String) (keywords : List Keyword) :
    (dropRepeats [] keywords).find? (·.columnIs name) = keywords.find? (·.columnIs name) :=
  -- whether a keyword is on a column is told by its own column
  find?_dropRepeats (p := fun column => Keyword.columnIs { text := "", column := column } name)
    (by simp) keywords

/-! ### Defaults on a column -/

/-- The text of the default on a column on which none of the keywords is. The order has one unless
it is set in the other direction. -/
def defaultText? (name : String) (keywords : List Keyword) : Option String :=
  if Text.lower name = "first" then some "1"
  else if Text.lower name = "rows" then some "-2"
  else if Text.lower name = "sort" ∧ setsColumn keywords "sort-reverse" = false then
    some defaultSortField
  else none

theorem defaultText?_eq_none_iff :
    defaultText? name written = none ↔ Text.lower name ≠ "first" ∧ Text.lower name ≠ "rows" ∧
      (Text.lower name = "sort" → ∃ keyword ∈ written, keyword.column = some "sort-reverse") := by
  have hreverse : setsColumn written "sort-reverse" = false ↔
      ¬ ∃ keyword ∈ written, keyword.column = some "sort-reverse" := by
    simp [setsColumn]
  unfold defaultText?
  split_ifs with hfirst hrows hsort
  · simp [hfirst]
  · simp [hrows]
  · simpa [hsort.1] using hreverse.1 hsort.2
  · simp only [ne_eq, hfirst, hrows, not_false_eq_true, true_and, true_iff]
    intro hname
    by_contra hnone
    exact hsort ⟨hname, hreverse.2 hnone⟩

theorem plain_of_mem_defaultColumns : ∀ column ∈ defaultColumns,
    Text.lower column = column ∧ column.toList.head? ≠ some '_' := by decide

/-- A default is on the column of its own name only. -/
theorem Keyword.columnIs_default {column : String} (hcolumn : keyword.column = some column)
    (h : column ∈ defaultColumns) : keyword.columnIs name = (Text.lower name == column) := by
  obtain ⟨hlower, hhead⟩ := plain_of_mem_defaultColumns column h
  have hprivate : column ≠ "_" ++ Text.lower name := by
    rintro rfl
    simp at hhead
  simp [Keyword.columnIs, hcolumn, hlower, beq_false_of_ne hprivate, eq_comm, Bool.beq_eq_decide_eq]

theorem setsColumn_eq_false {column : String} (h : ∀ keyword ∈ keywords, ¬ keyword.IsOn name)
    (hname : Text.lower name = Text.lower column) : setsColumn keywords column = false := by
  rw [setsColumn, List.any_eq_false]
  intro keyword hmem hcolumn
  exact h keyword hmem ⟨column, by simpa using hcolumn, .inl hname.symm⟩

/-- The default on a column is found where nothing is written on it, unless the order is set in the
other direction. -/
theorem isFound_default_iff {column : String} (keyword : Keyword)
    (h : ∀ keyword ∈ keywords, ¬ keyword.IsOn name)
    (hcolumn : keyword.column = some column) (hdefault : column ∈ defaultColumns) :
    (keyword.isMissingFrom keywords = true ∧ keyword.columnIs name = true) ↔
      Text.lower name = column ∧
        (column = "sort" → setsColumn keywords "sort-reverse" = false) := by
  rw [Keyword.columnIs_default hcolumn hdefault, beq_iff_eq, and_comm]
  refine and_congr_right fun hname => ?_
  have hopen : setsColumn keywords column = false :=
    setsColumn_eq_false h (hname.trans (plain_of_mem_defaultColumns column hdefault).1.symm)
  by_cases hsort : column = "sort"
  · subst hsort
    simp [Keyword.isMissingFrom, Keyword.alternatives, hcolumn, hopen]
  · simp [Keyword.isMissingFrom, Keyword.alternatives, hcolumn, hsort, hopen]

/-- Where nothing is written, the text of the default is found. -/
theorem find?_columnIs_defaultKeywords (h : ∀ keyword ∈ keywords, ¬ keyword.IsOn name) :
    ((defaultKeywords (some defaultSortField) keywords).find? (·.columnIs name)).map (·.text) =
      defaultText? name keywords := by
  have hall : allDefaults (some defaultSortField) =
      [{ text := "1", column := some "first", type := .integer, integer := 1 },
        { text := "-2", column := some "rows", type := .integer, integer := -2 },
        { text := defaultSortField, column := some "sort", type := .string }] := by decide
  rw [defaultKeywords_eq_filter, List.find?_filter, hall, List.find?_cons, List.find?_cons,
    List.find?_cons, List.find?_nil]
  have hfirst := isFound_default_iff
    { text := "1", column := some "first", type := .integer, integer := 1 } h rfl (by decide)
  have hrows := isFound_default_iff
    { text := "-2", column := some "rows", type := .integer, integer := -2 } h rfl (by decide)
  have hsort := isFound_default_iff
    { text := defaultSortField, column := some "sort", type := .string } h rfl (by decide)
  simp only [hfirst, hrows, hsort]
  unfold defaultText?
  by_cases hfirst : Text.lower name = "first"
  · simp [hfirst]
  by_cases hrows : Text.lower name = "rows"
  · simp [hrows]
  by_cases hsort : Text.lower name = "sort" ∧ setsColumn keywords "sort-reverse" = false
  · simp [hsort]
  · simp only [forall_const, hfirst, hrows, hsort]
    simp

/-! ### Terms -/

/-- Without the repetitions the same defaults are missing. -/
theorem defaultKeywords_dropRepeats (defaultSort : Option String) (keywords : List Keyword) :
    defaultKeywords defaultSort (dropRepeats [] keywords) =
      defaultKeywords defaultSort keywords := by
  rw [dropRepeats_eq_withoutRepeats]
  exact defaultKeywords_congr (fun column _ => setsColumn_withoutRepeats [] keywords column) _

/-- A look-up gives a text for every term that can be split: that of the first keyword written on
the column, or of the default if none is. So it gives none exactly if nothing is written on the
column and the column has no default. -/
theorem termValue?_written (name : String)
    (h : split clock term (some defaultSortField) = .ok keywords) :
    ∃ written value, (Part.ofTerm term).mapM (Part.keyword clock) = .ok written ∧
      termValue? clock (some term) name = .ok value ∧
      (∀ keyword, IsFirstOn name written keyword → value = some keyword.text) ∧
      ((∀ keyword ∈ written, ¬ keyword.IsOn name) → value = defaultText? name written) ∧
      (value = none ↔ (∀ keyword ∈ written, ¬ keyword.IsOn name) ∧
        Text.lower name ≠ "first" ∧ Text.lower name ≠ "rows" ∧
        (Text.lower name = "sort" →
          ∃ keyword ∈ written, keyword.column = some "sort-reverse")) := by
  obtain ⟨written, hwritten, hkeywords⟩ := split_eq_ok_iff.1 h
  have hvalue : termValue? clock (some term) name =
      .ok ((keywords.find? (·.columnIs name)).map (·.text)) := map_eq_ok_iff.2 ⟨keywords, h, rfl⟩
  have hfind : keywords.find? (·.columnIs name) = (written.find? (·.columnIs name)).or
      ((defaultKeywords (some defaultSortField) written).find? (·.columnIs name)) := by
    rw [← hkeywords, List.find?_append, find?_columnIs_dropRepeats, defaultKeywords_dropRepeats]
  have hdefault : (∀ keyword ∈ written, ¬ keyword.IsOn name) →
      (keywords.find? (·.columnIs name)).map (·.text) = defaultText? name written := by
    intro hnone
    rw [hfind, find?_columnIs_eq_none_iff.2 hnone, Option.none_or,
      find?_columnIs_defaultKeywords hnone]
  refine ⟨written, _, hwritten, hvalue, fun keyword hfirst => ?_, hdefault, ?_⟩
  · rw [hfind, find?_columnIs_eq_some_iff.2 hfirst]
    rfl
  · rw [← defaultText?_eq_none_iff]
    constructor
    · intro hnone
      have hopen : written.find? (·.columnIs name) = none := by
        rw [Option.map_eq_none_iff, hfind, Option.or_eq_none_iff] at hnone
        exact hnone.1
      have hunwritten := find?_columnIs_eq_none_iff.1 hopen
      exact ⟨hunwritten, (hdefault hunwritten).symm.trans hnone⟩
    · rintro ⟨hunwritten, hnone⟩
      exact (hdefault hunwritten).trans hnone

end Lookup

/-- The keyword on the private form stands before the one on the column itself. -/
theorem termValue?_written_private :
    ∃ keywords,
      split (.whole 0) "_Owner=bob owner=eve" (some defaultSortField) = .ok keywords ∧
        termValue? (.whole 0) (some "_Owner=bob owner=eve") "OWNER" = .ok (some "bob") := by
  have hreturns : ((split (.whole 0) "_Owner=bob owner=eve" (some defaultSortField)).map
      List.length).toOption = some 5 := rfl
  obtain ⟨keywords, hsplit, -⟩ := map_eq_ok_iff.1 (eq_ok_of_toOption hreturns)
  obtain ⟨written, value, hwritten, hvalue, hfirst, -, -⟩ := termValue?_written "OWNER" hsplit
  let bob : Keyword :=
    { text := "bob", column := some "_owner", relation := .column .equal, type := .string }
  have hparts : (Part.ofTerm "_Owner=bob owner=eve").mapM (Part.keyword (.whole 0)) = .ok
      [bob, { bob with text := "eve", column := some "owner" }] := rfl
  obtain rfl := Except.ok.inj (hwritten.symm.trans hparts)
  have hbob : value = some "bob" := hfirst bob (find?_columnIs_eq_some_iff.1 rfl)
  exact ⟨keywords, hsplit, hbob ▸ hvalue⟩

/-- Nothing is written on the number of rows, but a text is found there. -/
theorem termValue?_default_rows :
    ∃ written, (Part.ofTerm "name=x").mapM (Part.keyword (.whole 0)) = .ok written ∧
      (∀ keyword ∈ written, ¬ keyword.IsOn "rows") ∧
      termValue? (.whole 0) (some "name=x") "rows" = .ok (some "-2") := by
  refine ⟨[{ text := "x", column := some "name", relation := .column .equal, type := .string }],
    rfl, ?_, rfl⟩
  exact find?_columnIs_eq_none_iff.1 rfl

end ListingFilter
