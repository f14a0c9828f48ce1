import ListingFilter.Controls
import ListingFilter.Proofs.Concatenation
import ListingFilter.Proofs.UnknownColumns
/-!
# The control keywords of a term

Whatever is written in a term, its keywords set the first row and the number of rows exactly once,
and each other option of single use at most once: by the first part on the option, if there is one,
and else by the default. A keyword on a control column has no relation. If the column holds an
integer, the integer of the keyword is in the range of the column, and is the one that readers get
to see, whatever the type of the value is.
-/

namespace ListingFilter

/-! ### Values in range -/

namespace Keyword

variable {keyword : Keyword} {column : String}

theorem correction?_first_eq_none_iff (first : Int) :
    correction? "first" first = none ↔ 1 ≤ first := by
  simp only [correction?]
  split_ifs <;> simp_all <;> omega

theorem correction?_minQod_eq_none_iff (quality : Int) :
    correction? "min_qod" quality = none ↔ 0 ≤ quality ∧ quality ≤ 100 := by
  have hbounds : correction? "min_qod" quality =
      if quality < 0 then some 0 else if 100 < quality then some 100 else none := rfl
  rw [hbounds]
  split_ifs
  · exact iff_of_false nofun (by omega)
  · exact iff_of_false nofun (by omega)
  · exact iff_of_true rfl (by omega)

theorem correction?_switch (h : column ∈ switchColumns) (switch : Int) :
    correction? column switch = if switch = 0 ∨ switch = 1 then none else some 1 := by
  have hother : ∀ column ∈ switchColumns, column ≠ "first" ∧ column ≠ "rows" ∧
      column ≠ "min_qod" := by decide
  obtain ⟨hfirst, hrows, hquality⟩ := hother column h
  simp [correction?, hfirst, hrows, hquality]

theorem correction?_switch_eq_none_iff (h : column ∈ switchColumns) (switch : Int) :
    correction? column switch = none ↔ switch = 0 ∨ switch = 1 := by
  simp [correction?_switch h, or_iff_not_imp_left]

/-- Whatever is not 0 switches on. -/
theorem legalValue_switch (h : column ∈ switchColumns) (switch : Int) :
    legalValue column switch = if switch = 0 then 0 else 1 := by
  rw [legalValue, correction?_switch h]
  by_cases hzero : switch = 0
  · simp [hzero]
  · by_cases hone : switch = 1
    · simp [hone]
    · simp [hzero, hone]

/-- On a control column the keyword has no relation. If the column holds an integer, that of the
keyword is in range and is the one that is read off. -/
structure IsInRange (keyword : Keyword) : Prop where
  relation : ∀ column ∈ controlColumns, keyword.column = some column → keyword.relation = .none
  value : ∀ column ∈ integerControls, keyword.column = some column →
    keyword.integerValue = keyword.integer
  first : keyword.column = some "first" → 1 ≤ keyword.integer
  rows : keyword.column = some "rows" → -2 ≤ keyword.integer ∧ keyword.integer ≠ 0
  quality : keyword.column = some "min_qod" → 0 ≤ keyword.integer ∧ keyword.integer ≤ 100
  switch : ∀ column ∈ switchColumns, keyword.column = some column →
    keyword.integer = 0 ∨ keyword.integer = 1

/-- A legal keyword is in range if the integer that is read off is its own. -/
theorem IsLegal.isInRange (h : keyword.IsLegal)
    (hrelation : ∀ column ∈ controlColumns, keyword.column = some column →
      keyword.relation = .none)
    (hvalue : ∀ column ∈ integerControls, keyword.column = some column →
      keyword.integerValue = keyword.integer) : keyword.IsInRange := by
  have hlegal : ∀ column ∈ integerControls, keyword.column = some column →
      correction? column keyword.integer = none := by
    intro column hinteger hcolumn
    rw [← hvalue column hinteger hcolumn]
    exact (h column hinteger hcolumn).2
  refine ⟨hrelation, hvalue, fun hfirst => ?_, fun hrows => ?_, fun hquality => ?_,
    fun column hswitch hcolumn => ?_⟩
  · exact (correction?_first_eq_none_iff _).1 (hlegal "first" (by decide) hfirst)
  · exact ((correction?_rows_eq_none_iff _).1 (hlegal "rows" (by decide) hrows)).symm
  · exact (correction?_minQod_eq_none_iff _).1 (hlegal "min_qod" (by decide) hquality)
  · have hinteger : column ∈ integerControls := List.mem_append_right _ hswitch
    exact (correction?_switch_eq_none_iff hswitch _).1 (hlegal column hinteger hcolumn)

theorem isInRange_of_column_eq_none (h : keyword.column = none) : keyword.IsInRange :=
  (isLegal_of_column_eq_none h).isInRange (by simp [h]) (by simp [h])

/-- The integer that is put in is the one that is read off, whatever the value was before. -/
theorem isInRange_of_legal {result : Keyword} (hcolumn : keyword.column = some column)
    (hlower : Text.lower column = column) (h : keyword.legal = .ok result) : result.IsInRange := by
  have hlegal := isLegal_of_legal hcolumn hlower h
  rcases legal_cases hcolumn hlower h with ⟨hfree, rfl⟩ | ⟨-, htext, rfl⟩ | ⟨-, value, -, rfl⟩ |
    ⟨-, -, -, rfl⟩
  · have hne : ∀ other ∈ controlColumns, result.column ≠ some other := by
      intro other hcontrol hother
      obtain rfl : column = other := Option.some.inj (hcolumn.symm.trans hother)
      exact hfree hcontrol
    exact hlegal.isInRange (fun other hcontrol hother => absurd hother (hne other hcontrol))
      fun other hinteger hother => absurd hother (hne other (integerControls_subset hinteger))
  · refine hlegal.isInRange (fun _ _ _ => rfl) fun other hinteger hother => ?_
    obtain rfl : column = other := Option.some.inj (hcolumn.symm.trans hother)
    exact absurd hinteger htext
  · refine hlegal.isInRange (fun _ _ _ => rfl) fun _ _ _ => ?_
    exact integerValue_withControl fun _ hne => absurd rfl hne
  · refine hlegal.isInRange (fun _ _ _ => rfl) fun _ _ _ => ?_
    exact integerValue_withControl fun htype _ => by simp [controlValue, htype]

theorem isInRange_of_part {clock : Clock} {term : String} {part : Part}
    (hpart : part ∈ Part.ofTerm term) (h : part.keyword clock = .ok keyword) :
    keyword.IsInRange := by
  rcases Part.keyword_cases h with ⟨-, rfl⟩ | ⟨-, value, -, rfl⟩ |
    ⟨name, comparison, value, hlead, -, hlegal⟩
  · exact isInRange_of_column_eq_none (Part.freeText_column part)
  · exact isInRange_of_column_eq_none rfl
  · exact isInRange_of_legal rfl (Part.lower_of_mem_ofTerm hpart hlead) hlegal

end Keyword

theorem isInRange_of_mem_defaultKeywords {defaultSort : Option String} {keywords : List Keyword}
    {keyword : Keyword} (h : keyword ∈ defaultKeywords defaultSort keywords) :
    keyword.IsInRange := by
  rcases mem_defaultKeywords h with ⟨rfl, -⟩ | ⟨rfl, -⟩ | ⟨field, -, rfl⟩
  · constructor <;> decide
  · constructor <;> decide
  · exact ⟨fun _ _ _ => rfl, by simp [Keyword.integerControls, switchColumns], by simp, by simp,
      by simp, by simp [switchColumns]⟩

/-! ### Options of single use -/

/-- The keywords on `column`. -/
def keywordsOn (keywords : List Keyword) (column : String) : List Keyword :=
  keywords.filter (·.column == some column)

section Options

variable {option : String}

/-- Of settled keywords at most the first one on an option is on it. -/
theorem keywordsOn_eq_of_isSettled {keywords : List Keyword} (h : IsSettled keywords)
    (hoption : option ∈ singleUseColumns) :
    keywordsOn keywords option = (findColumn? keywords option).toList := by
  induction keywords with
  | nil => rfl
  | cons keyword rest ih =>
    obtain ⟨hfirst, hrest⟩ := List.pairwise_cons.1 h
    rw [keywordsOn, findColumn?, List.filter_cons, List.find?_cons]
    by_cases hcolumn : keyword.column = some option
    · have hnone : rest.filter (·.column == some option) = [] := by
        refine List.filter_eq_nil_iff.2 fun other hother hsame => ?_
        exact hfirst other hother option ((Keyword.column_eq_some_iff hoption).1 hcolumn)
          ((Keyword.column_eq_some_iff hoption).1 (by simpa using hsame))
      simp [hcolumn, hnone]
    · rw [keywordsOn, findColumn?] at ih
      simpa [beq_false_of_ne hcolumn] using ih hrest

theorem findColumn?_append (front back : List Keyword) (column : String) :
    findColumn? (front ++ back) column =
      (findColumn? front column).or (findColumn? back column) := List.find?_append

/-- The first keyword of a kind of columns is not dropped, if the settings before are of another. -/
theorem find?_dropRepeats {p : Option String → Bool} {seen : List String}
    (hseen : ∀ other ∈ seen, p (some other) = false) (keywords : List Keyword) :
    (dropRepeats seen keywords).find? (p ·.column) = keywords.find? (p ·.column) := by
  induction keywords generalizing seen with
  | nil => rfl
  | cons keyword rest ih =>
    cases hoption : keyword.option? with
    | none => rw [dropRepeats_cons_of_none hoption, List.find?_cons, List.find?_cons, ih hseen]
    | some other =>
      have hcolumn := (Keyword.option?_eq_some_iff.1 hoption).1
      rw [dropRepeats_cons_of_some hoption]
      cases hfound : p keyword.column with
      | true =>
        have hfresh : other ∉ seen := by
          intro hmem
          rw [hcolumn, hseen other hmem] at hfound
          cases hfound
        rw [if_neg hfresh, List.find?_cons, List.find?_cons, hfound]
      | false =>
        have hskip : ∀ others : List Keyword,
            (keyword :: others).find? (p ·.column) = others.find? (p ·.column) :=
          fun others => List.find?_cons_of_neg (by simp [hfound])
        rw [hskip]
        split_ifs
        · exact ih hseen
        · rw [hskip]
          exact ih (List.forall_mem_cons.2 ⟨hcolumn ▸ hfound, hseen⟩)

/-- The first keyword of a kind of columns is that of the first part of it. -/
theorem find?_of_mapM {clock : Clock} {term : String} {parts : List Part}
    {keywords : List Keyword} (hparts : ∀ part ∈ parts, part ∈ Part.ofTerm term)
    (h : parts.mapM (Part.keyword clock) = .ok keywords) (p : Option String → Bool) :
    Option.Rel (fun part keyword => part.keyword clock = .ok keyword)
      (parts.find? (p ·.column?)) (keywords.find? (p ·.column)) := by
  induction mapM_eq_ok_iff.1 h with
  | nil => exact .none
  | @cons part keyword parts keywords hkeyword hrest ih =>
    obtain ⟨hpart, hparts⟩ := List.forall_mem_cons.1 hparts
    rw [List.find?_cons, List.find?_cons, Part.column?_of_keyword hpart hkeyword]
    cases p part.column? with
    | true => exact .some hkeyword
    | false => exact ih hparts (mapM_eq_ok_iff.2 hrest)

/-- An option that is open gets its default, if there is one. -/
theorem findColumn?_defaultKeywords {keywords : List Keyword} (hoption : option ∈ singleUseColumns)
    (hopen : findColumn? keywords option = none) (defaultSort : Option String) :
    findColumn? (defaultKeywords defaultSort keywords) option =
      findColumn? (allDefaults defaultSort) option := by
  have hset : setsColumn keywords option = false := by
    simpa [setsColumn, findColumn?] using hopen
  have hsort : option ≠ "sort" := by
    rintro rfl
    exact absurd hoption (by decide)
  have hmissing : ∀ default : Keyword,
      decide (default.isMissingFrom keywords = true ∧ (default.column == some option) = true) =
        (default.column == some option) := by
    intro default
    by_cases hcolumn : default.column = some option
    · simp [Keyword.isMissingFrom, Keyword.alternatives, hcolumn, hsort, hset]
    · simp [beq_false_of_ne hcolumn]
  rw [defaultKeywords_eq_filter, findColumn?, List.find?_filter, findColumn?]
  simp only [hmissing]

/-- The first keyword on an option of single use is that of the first part on the option, or else
the default. -/
theorem findColumn?_of_split {clock : Clock} {term : String} {defaultSort : Option String}
    {keywords : List Keyword} (h : split clock term defaultSort = .ok keywords)
    (hoption : option ∈ singleUseColumns) :
    ∃ written : Option Keyword,
      Option.Rel (fun part keyword => part.keyword clock = .ok keyword)
        ((Part.ofTerm term).find? (·.column? == some option)) written ∧
      findColumn? keywords option =
        written.or (findColumn? (allDefaults defaultSort) option) := by
  obtain ⟨read, hread, rfl⟩ := split_eq_ok_iff.1 h
  have hkept : findColumn? (dropRepeats [] read) option = findColumn? read option :=
    find?_dropRepeats (p := (· == some option)) (by simp) read
  refine ⟨findColumn? read option,
    find?_of_mapM (fun _ hpart => hpart) hread (· == some option), ?_⟩
  rw [findColumn?_append, ← hkept]
  cases hwritten : findColumn? (dropRepeats [] read) option with
  | some keyword => rfl
  | none => rw [Option.none_or, Option.none_or, findColumn?_defaultKeywords hoption hwritten]

theorem keywordsOn_of_split {clock : Clock} {term : String} {defaultSort : Option String}
    {keywords : List Keyword} (h : split clock term defaultSort = .ok keywords)
    (hoption : option ∈ singleUseColumns) :
    ∃ written : Option Keyword,
      Option.Rel (fun part keyword => part.keyword clock = .ok keyword)
        ((Part.ofTerm term).find? (·.column? == some option)) written ∧
      keywordsOn keywords option =
        (written.or (findColumn? (allDefaults defaultSort) option)).toList := by
  obtain ⟨written, hrel, hfound⟩ := findColumn?_of_split h hoption
  exact ⟨written, hrel,
    (keywordsOn_eq_of_isSettled (isSettled_of_split h).1 hoption).trans (congrArg _ hfound)⟩

end Options

/-! ### The controls of a term -/

/-- What the keywords of a term say on the control columns. -/
structure HasControls (clock : Clock) (term : String) (defaultSort : Option String)
    (keywords : List Keyword) : Prop where
  first : (keywordsOn keywords "first").length = 1
  rows : (keywordsOn keywords "rows").length = 1
  single : ∀ option ∈ singleUseColumns, (keywordsOn keywords option).length ≤ 1
  /-- The first part on an option counts. -/
  written : ∀ option ∈ singleUseColumns,
    ∀ part ∈ (Part.ofTerm term).find? (·.column? == some option),
      ∃ keyword, part.keyword clock = .ok keyword ∧ keywordsOn keywords option = [keyword]
  unwritten : ∀ option ∈ singleUseColumns,
    (Part.ofTerm term).find? (·.column? == some option) = none →
      keywordsOn keywords option = (findColumn? (allDefaults defaultSort) option).toList
  order : ∀ field ∈ defaultSort, field ≠ "" →
    keywordsOn keywords "sort" ≠ [] ∨ keywordsOn keywords "sort-reverse" ≠ []
  inRange : ∀ keyword ∈ keywords, keyword.IsInRange

theorem keywordsOn_ne_nil_iff {keywords : List Keyword} {column : String} :
    keywordsOn keywords column ≠ [] ↔ setsColumn keywords column = true := by
  simp [keywordsOn, setsColumn]

/-- Of an option of single use there is one keyword if it has a default, and no more than one. -/
theorem length_keywordsOn_of_split {clock : Clock} {term : String} {defaultSort : Option String}
    {keywords : List Keyword} (h : split clock term defaultSort = .ok keywords) {option : String}
    (hoption : option ∈ singleUseColumns) :
    (keywordsOn keywords option).length ≤ 1 ∧
      ((findColumn? (allDefaults defaultSort) option).isSome = true →
        (keywordsOn keywords option).length = 1) := by
  obtain ⟨written, -, hon⟩ := keywordsOn_of_split h hoption
  rw [hon]
  cases written with
  | some keyword => simp
  | none => cases findColumn? (allDefaults defaultSort) option <;> simp

/-- The controls of a term are settled once, by what is written first or by the default, and are in
range. -/
theorem hasControls_of_split {clock : Clock} {term : String} {defaultSort : Option String}
    {keywords : List Keyword} (h : split clock term defaultSort = .ok keywords) :
    HasControls clock term defaultSort keywords where
  first := (length_keywordsOn_of_split h (by decide)).2
    (by simp [allDefaults, defaultKeywords, findColumn?, setsColumn])
  rows := (length_keywordsOn_of_split h (by decide)).2
    (by simp [allDefaults, defaultKeywords, findColumn?, setsColumn])
  single option hoption := (length_keywordsOn_of_split h hoption).1
  written option hoption part hpart := by
    obtain ⟨written, hrel, hon⟩ := keywordsOn_of_split h hoption
    rw [Option.mem_def.1 hpart] at hrel
    cases hrel with
    | some hkeyword => exact ⟨_, hkeyword, hon⟩
  unwritten option hoption hnone := by
    obtain ⟨written, hrel, hon⟩ := keywordsOn_of_split h hoption
    rw [hnone] at hrel
    cases hrel
    exact hon
  order field hfield hne := by
    simp only [keywordsOn_ne_nil_iff]
    have hopen := defaultKeywords_eq_nil_iff.1 (isSettled_of_split h).2
    exact (hopen.2.2 field hfield).resolve_left hne
  inRange keyword hmem := by
    rcases part_or_default_of_split h hmem with ⟨part, hpart, hkeyword⟩ | ⟨written, hdefault⟩
    · exact Keyword.isInRange_of_part hpart hkeyword
    · exact isInRange_of_mem_defaultKeywords hdefault

/-- Settings with a text, a fraction, a relative time and a value out of range, quoted and not, and
with two that are written again. -/
theorem hasControls_mixed_values :
    let term := "FIRST='2nd' rows=7.5 first=9 notes>-3d min_qod=150 levels~\"h m\" " ++
      "overrides=\" 0\" notes=0 sort-reverse="
    ∃ keywords, split (.whole 0) term (some "name") = .ok keywords ∧
      keywords.map (fun keyword => (keyword.text, keyword.integer, keyword.type)) =
        [("2nd", 2, .string), ("7.5", 7, .double), ("1", 1, .integer), ("100", 100, .integer),
          ("h m", 0, .string), (" 0", 0, .string), ("", 0, .string)] ∧
      HasControls (.whole 0) term (some "name") keywords := by
  intro term
  have hreturns : ((split (.whole 0) term (some "name")).map fun keywords =>
      keywords.map fun keyword => (keyword.text, keyword.integer, keyword.type)).toOption =
        some [("2nd", 2, .string), ("7.5", 7, .double), ("1", 1, .integer), ("100", 100, .integer),
          ("h m", 0, .string), (" 0", 0, .string), ("", 0, .string)] := by decide +kernel
  obtain ⟨keywords, hsplit, hvalues⟩ := map_eq_ok_iff.1 (eq_ok_of_toOption hreturns)
  exact ⟨keywords, hsplit, hvalues, hasControls_of_split hsplit⟩

end ListingFilter
