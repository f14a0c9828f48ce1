import ListingFilter.Keyword.Split
import ListingFilter.Proofs.Grammar
import ListingFilter.Proofs.Outcomes
/-!
# Splitting written terms

`dropRepeats` carries the options that are set already; `withoutRepeats` compares each keyword with
all keywords before it. The two agree, so splitting a written term gives the keywords of its parts
without the repeated settings, followed by the defaults for what the term leaves open.

Keywords are settled if no option is set twice. A split term is settled, and dropping repeats from
settled keywords drops nothing.
-/

namespace ListingFilter

/-! ### Repeated settings -/

/-- The option that a keyword sets, if only the first setting of it counts. -/
def Keyword.option? (keyword : Keyword) : Option String :=
  keyword.column.filter singleUseColumns.contains

/-- A keyword before sets the option that `keyword` sets. -/
def Keyword.repeats (keyword : Keyword) (before : List Keyword) : Bool :=
  match keyword.option? with
  | none => false
  | some option => setsColumn before option

/-- The keywords that repeat none of those before them; `before` stands before them all. -/
def withoutRepeats (before : List Keyword) : List Keyword → List Keyword
  | [] => []
  | keyword :: rest =>
    if keyword.repeats before then withoutRepeats (before ++ [keyword]) rest
    else keyword :: withoutRepeats (before ++ [keyword]) rest

section Repeats

variable {keyword : Keyword} {option : String}

theorem Keyword.option?_eq_some_iff :
    keyword.option? = some option ↔ keyword.column = some option ∧ option ∈ singleUseColumns := by
  simp [Keyword.option?, Option.filter_eq_some_iff]

/-- On the options of single use, the option of a keyword is its column. -/
theorem Keyword.column_eq_some_iff (h : option ∈ singleUseColumns) :
    keyword.column = some option ↔ keyword.option? = some option := by
  simp [Keyword.option?_eq_some_iff, h]

theorem dropRepeats_cons_of_none (h : keyword.option? = none) (seen : List String)
    (rest : List Keyword) :
    dropRepeats seen (keyword :: rest) = keyword :: dropRepeats seen rest := by
  cases hcolumn : keyword.column with
  | none => simp [dropRepeats, hcolumn]
  | some column =>
    have hsingle : column ∉ singleUseColumns := by simpa [Keyword.option?, hcolumn] using h
    simp [dropRepeats, hcolumn, hsingle]

theorem dropRepeats_cons_of_some (h : keyword.option? = some option) (seen : List String)
    (rest : List Keyword) :
    dropRepeats seen (keyword :: rest) =
      if option ∈ seen then dropRepeats seen rest
      else keyword :: dropRepeats (option :: seen) rest := by
  obtain ⟨hcolumn, hsingle⟩ := Keyword.option?_eq_some_iff.1 h
  simp [dropRepeats, hcolumn, hsingle]

theorem setsColumn_cons (keyword : Keyword) (rest : List Keyword) (column : String) :
    setsColumn (keyword :: rest) column =
      (keyword.column == some column || setsColumn rest column) := by
  simp [setsColumn]

theorem setsColumn_append (front back : List Keyword) (column : String) :
    setsColumn (front ++ back) column = (setsColumn front column || setsColumn back column) := by
  simp [setsColumn]

theorem setsColumn_append_singleton (front : List Keyword) (last : Keyword) (column : String) :
    setsColumn (front ++ [last]) column =
      (setsColumn front column || last.column == some column) := by
  simp [setsColumn]

end Repeats

/-- The options that are set already say enough about the keywords before. -/
theorem dropRepeats_eq_withoutRepeats_of_seen {seen : List String} {before : List Keyword}
    (h : ∀ option ∈ singleUseColumns, option ∈ seen ↔ setsColumn before option = true)
    (keywords : List Keyword) : dropRepeats seen keywords = withoutRepeats before keywords := by
  induction keywords generalizing seen before with
  | nil => rfl
  | cons keyword rest ih =>
    rw [withoutRepeats, Keyword.repeats]
    cases hoption : keyword.option? with
    | none =>
      rw [dropRepeats_cons_of_none hoption, ih]
      · rfl
      · intro other hother
        have hne : keyword.column ≠ some other := by
          simp [Keyword.column_eq_some_iff hother, hoption]
        simp [setsColumn_append_singleton, h other hother, hne]
    | some option =>
      have hsingle := (Keyword.option?_eq_some_iff.1 hoption).2
      have hcolumn : ∀ other ∈ singleUseColumns,
          keyword.column = some other ↔ other = option := by
        intro other hother
        rw [Keyword.column_eq_some_iff hother, hoption, Option.some_inj, eq_comm]
      rw [dropRepeats_cons_of_some hoption]
      by_cases hseen : option ∈ seen
      · -- a dropped keyword stays among those before, where it sets nothing new
        rw [if_pos hseen, if_pos ((h option hsingle).1 hseen), ih]
        intro other hother
        rw [setsColumn_append_singleton, h other hother, Bool.or_eq_true, beq_iff_eq,
          hcolumn other hother]
        refine ⟨.inl, ?_⟩
        rintro (hset | rfl)
        · exact hset
        · exact (h other hother).1 hseen
      · rw [if_neg hseen, if_neg fun hset => hseen ((h option hsingle).2 hset), ih]
        intro other hother
        rw [setsColumn_append_singleton, List.mem_cons, h other hother, Bool.or_eq_true,
          beq_iff_eq, hcolumn other hother, or_comm]

theorem dropRepeats_eq_withoutRepeats (keywords : List Keyword) :
    dropRepeats [] keywords = withoutRepeats [] keywords :=
  dropRepeats_eq_withoutRepeats_of_seen (fun _ _ => by simp [setsColumn]) keywords

/-! ### Settled keywords -/

/-- No option is set twice. -/
def IsSettled (keywords : List Keyword) : Prop :=
  keywords.Pairwise fun before after =>
    ∀ option, before.option? = some option → after.option? ≠ some option

theorem not_mem_of_mem_dropRepeats {seen : List String} {keywords : List Keyword}
    {keyword : Keyword} (hmem : keyword ∈ dropRepeats seen keywords) {option : String}
    (hoption : keyword.option? = some option) : option ∉ seen := by
  induction keywords generalizing seen with
  | nil => cases hmem
  | cons head rest ih =>
    cases hhead : head.option? with
    | none =>
      rw [dropRepeats_cons_of_none hhead] at hmem
      rcases List.mem_cons.1 hmem with rfl | hmem
      · rw [hhead] at hoption
        cases hoption
      · exact ih hmem
    | some other =>
      rw [dropRepeats_cons_of_some hhead] at hmem
      split_ifs at hmem with hseen
      · exact ih hmem
      · rcases List.mem_cons.1 hmem with rfl | hmem
        · rwa [Option.some.inj (hoption.symm.trans hhead)]
        · exact fun hbad => ih hmem (List.mem_cons_of_mem other hbad)

theorem mem_of_mem_dropRepeats {seen : List String} {keywords : List Keyword} {keyword : Keyword}
    (h : keyword ∈ dropRepeats seen keywords) : keyword ∈ keywords := by
  induction keywords generalizing seen with
  | nil => cases h
  | cons head rest ih =>
    cases hhead : head.option? with
    | none =>
      rw [dropRepeats_cons_of_none hhead] at h
      exact List.mem_cons.2 ((List.mem_cons.1 h).imp_right ih)
    | some other =>
      rw [dropRepeats_cons_of_some hhead] at h
      split_ifs at h
      · exact List.mem_cons_of_mem head (ih h)
      · exact List.mem_cons.2 ((List.mem_cons.1 h).imp_right ih)

theorem isSettled_dropRepeats (seen : List String) (keywords : List Keyword) :
    IsSettled (dropRepeats seen keywords) := by
  induction keywords generalizing seen with
  | nil => exact List.Pairwise.nil
  | cons keyword rest ih =>
    cases hoption : keyword.option? with
    | none =>
      rw [dropRepeats_cons_of_none hoption]
      exact List.Pairwise.cons (fun _ _ option hnone => by simp [hoption] at hnone) (ih seen)
    | some option =>
      rw [dropRepeats_cons_of_some hoption]
      split_ifs with hseen
      · exact ih seen
      · refine List.Pairwise.cons (fun after hafter other hother hbad => ?_) (ih (option :: seen))
        obtain rfl : option = other := Option.some.inj (hoption.symm.trans hother)
        exact not_mem_of_mem_dropRepeats hafter hbad List.mem_cons_self

/-- From settled keywords that set nothing again, nothing is dropped. -/
theorem dropRepeats_eq_self {seen : List String} {keywords : List Keyword}
    (hsettled : IsSettled keywords)
    (hseen : ∀ keyword ∈ keywords, ∀ option ∈ keyword.option?, option ∉ seen) :
    dropRepeats seen keywords = keywords := by
  induction keywords generalizing seen with
  | nil => rfl
  | cons keyword rest ih =>
    obtain ⟨hfirst, hrest⟩ := List.pairwise_cons.1 hsettled
    cases hoption : keyword.option? with
    | none =>
      rw [dropRepeats_cons_of_none hoption,
        ih hrest fun other hother => hseen other (List.mem_cons_of_mem keyword hother)]
    | some option =>
      rw [dropRepeats_cons_of_some hoption,
        if_neg (hseen keyword List.mem_cons_self option hoption), ih hrest]
      intro other hother again hagain hbad
      rcases List.mem_cons.1 hbad with rfl | hbad
      · exact hfirst other hother again hoption hagain
      · exact hseen other (List.mem_cons_of_mem keyword hother) again hagain hbad

/-! ### Defaults -/

/-- The columns that decide which defaults are missing. -/
def defaultColumns : List String := ["first", "rows", "sort", "sort-reverse"]

theorem defaultKeywords_congr {keywords other : List Keyword}
    (h : ∀ column ∈ defaultColumns, setsColumn keywords column = setsColumn other column)
    (defaultSort : Option String) :
    defaultKeywords defaultSort keywords = defaultKeywords defaultSort other := by
  have hfirst := h "first" (by simp [defaultColumns])
  have hrows := h "rows" (by simp [defaultColumns])
  have hsort := h "sort" (by simp [defaultColumns])
  have hreverse := h "sort-reverse" (by simp [defaultColumns])
  simp only [defaultKeywords, hfirst, hrows, hsort, hreverse]

/-- What is open if a default is missing. -/
theorem defaultKeywords_eq_nil_iff {defaultSort : Option String} {keywords : List Keyword} :
    defaultKeywords defaultSort keywords = [] ↔
      setsColumn keywords "first" = true ∧ setsColumn keywords "rows" = true ∧
        ∀ field ∈ defaultSort, field = "" ∨ setsColumn keywords "sort" = true ∨
          setsColumn keywords "sort-reverse" = true := by
  cases defaultSort with
  | none => simp [defaultKeywords]
  | some field =>
    cases hset : setsColumn keywords "sort" <;> simp [defaultKeywords, hset]
    tauto

/-- With the defaults at its end a list leaves nothing open. -/
theorem defaultKeywords_append_defaultKeywords (defaultSort : Option String)
    (keywords : List Keyword) :
    defaultKeywords defaultSort (keywords ++ defaultKeywords defaultSort keywords) = [] := by
  rw [defaultKeywords_eq_nil_iff]
  refine ⟨?_, ?_, ?_⟩
  · cases hset : setsColumn keywords "first" with
    | true => simp [setsColumn_append, hset]
    | false => simp [setsColumn_append, hset, defaultKeywords, setsColumn_cons]
  · cases hset : setsColumn keywords "rows" with
    | true => simp [setsColumn_append, hset]
    | false => simp [setsColumn_append, hset, defaultKeywords, setsColumn_cons]
  · rintro field rfl
    by_cases hempty : field = ""
    · exact .inl hempty
    · refine .inr ?_
      cases hset : setsColumn keywords "sort" <;>
        cases hreverse : setsColumn keywords "sort-reverse" <;>
        simp [setsColumn_append, hset, hreverse, defaultKeywords, hempty, setsColumn_cons]

/-- A default is one of three keywords, and stands for what was open. -/
theorem mem_defaultKeywords {defaultSort : Option String} {keywords : List Keyword}
    {keyword : Keyword} (h : keyword ∈ defaultKeywords defaultSort keywords) :
    (keyword = { text := "1", column := some "first", type := .integer, integer := 1 } ∧
      setsColumn keywords "first" = false) ∨
    (keyword = { text := "-2", column := some "rows", type := .integer, integer := -2 } ∧
      setsColumn keywords "rows" = false) ∨
    ∃ field ∈ defaultSort, keyword = { text := field, column := some "sort", type := .string } := by
  simp only [defaultKeywords, List.mem_append] at h
  rcases h with (h | h) | h
  · split_ifs at h with hset
    · cases h
    · exact .inl ⟨List.mem_singleton.1 h, Bool.eq_false_iff.2 hset⟩
  · split_ifs at h with hset
    · cases h
    · exact .inr (.inl ⟨List.mem_singleton.1 h, Bool.eq_false_iff.2 hset⟩)
  · cases defaultSort with
    | none => cases h
    | some field =>
      dsimp only at h
      split_ifs at h
      · cases h
      · exact .inr (.inr ⟨field, rfl, List.mem_singleton.1 h⟩)

theorem isSettled_defaultKeywords (defaultSort : Option String) (keywords : List Keyword) :
    IsSettled (defaultKeywords defaultSort keywords) := by
  unfold defaultKeywords
  split_ifs
  all_goals cases defaultSort with
    | none => simp [IsSettled, Keyword.option?, singleUseColumns]
    | some field =>
      dsimp only
      split_ifs <;> simp [IsSettled, Keyword.option?, singleUseColumns]

/-- The defaults set nothing that settled keywords set already. -/
theorem isSettled_append_defaultKeywords {keywords : List Keyword} (h : IsSettled keywords)
    (defaultSort : Option String) :
    IsSettled (keywords ++ defaultKeywords defaultSort keywords) := by
  refine List.pairwise_append.2 ⟨h, isSettled_defaultKeywords defaultSort keywords, ?_⟩
  intro before hbefore after hafter option hoption hagain
  have hset : setsColumn keywords option = true :=
    List.any_eq_true.2 ⟨before, hbefore, by simp [(Keyword.option?_eq_some_iff.1 hoption).1]⟩
  have hcolumn := (Keyword.option?_eq_some_iff.1 hagain).1
  rcases mem_defaultKeywords hafter with ⟨rfl, hopen⟩ | ⟨rfl, hopen⟩ | ⟨field, -, rfl⟩
  · obtain rfl : "first" = option := Option.some.inj hcolumn
    exact absurd hset (Bool.eq_false_iff.1 hopen)
  · obtain rfl : "rows" = option := Option.some.inj hcolumn
    exact absurd hset (Bool.eq_false_iff.1 hopen)
  · obtain rfl : "sort" = option := Option.some.inj hcolumn
    exact absurd (Keyword.option?_eq_some_iff.1 hagain).2 (by decide)

/-! ### Splitting a written term -/

theorem split_eq_ok_iff {clock : Clock} {term : String} {defaultSort : Option String}
    {keywords : List Keyword} :
    split clock term defaultSort = .ok keywords ↔
      ∃ read, (Part.ofTerm term).mapM (Part.keyword clock) = .ok read ∧
        dropRepeats [] read ++ defaultKeywords defaultSort (dropRepeats [] read) = keywords := by
  rw [split, writtenKeywords, map_eq_ok_iff]
  constructor
  · rintro ⟨written, hwritten, rfl⟩
    obtain ⟨read, hread, rfl⟩ := map_eq_ok_iff.1 hwritten
    exact ⟨read, hread, rfl⟩
  · rintro ⟨read, hread, rfl⟩
    exact ⟨_, map_eq_ok_iff.2 ⟨read, hread, rfl⟩, rfl⟩

/-- A keyword of a term is that of a part, or it is a default for what other keywords leave open. -/
theorem part_or_default_of_split {clock : Clock} {term : String} {defaultSort : Option String}
    {keywords : List Keyword} (h : split clock term defaultSort = .ok keywords) {keyword : Keyword}
    (hmem : keyword ∈ keywords) :
    (∃ part ∈ Part.ofTerm term, part.keyword clock = .ok keyword) ∨
      ∃ written, keyword ∈ defaultKeywords defaultSort written := by
  obtain ⟨read, hread, rfl⟩ := split_eq_ok_iff.1 h
  rcases List.mem_append.1 hmem with hmem | hmem
  · exact .inl (exists_mem_of_mapM_eq_ok hread (mem_of_mem_dropRepeats hmem))
  · exact .inr ⟨_, hmem⟩

/-- The keywords of a term are settled, and leave no default open. -/
theorem isSettled_of_split {clock : Clock} {term : String} {defaultSort : Option String}
    {keywords : List Keyword} (h : split clock term defaultSort = .ok keywords) :
    IsSettled keywords ∧ defaultKeywords defaultSort keywords = [] := by
  obtain ⟨read, -, rfl⟩ := split_eq_ok_iff.1 h
  exact ⟨isSettled_append_defaultKeywords (isSettled_dropRepeats [] read) defaultSort,
    defaultKeywords_append_defaultKeywords defaultSort _⟩

/-- A written term is split into the keywords of its parts, without those that repeat a setting, and
the defaults for what they leave open. -/
theorem split_writtenTerm (clock : Clock) (defaultSort : Option String)
    {pieces : List (List Char × WrittenPart)} {trailing : List Char}
    (h : IsWriting pieces trailing) :
    split clock (String.ofList (writtenTerm pieces trailing)) defaultSort =
      ((pieces.map (·.2.part)).mapM (Part.keyword clock)).map fun keywords =>
        withoutRepeats [] keywords ++ defaultKeywords defaultSort (withoutRepeats [] keywords) := by
  rw [split, writtenKeywords, Part.ofTerm_writtenTerm h]
  cases (pieces.map (·.2.part)).mapM (Part.keyword clock) with
  | error fault => rfl
  | ok keywords => simp only [Except.map, dropRepeats_eq_withoutRepeats]

/-- Each kind of lead and body, an operator in quotation marks and a setting that is repeated. -/
theorem split_five_parts :
    let pieces : List (List Char × WrittenPart) :=
      [([' '], ⟨.column "Name" .approx, ['a', ' ', '\''], some '"'⟩),
        (['\t', '\n'], ⟨.approx, ['o', 'r'], some '\''⟩),
        (['\r'], ⟨.column "FIRST" .above, ['3'], none⟩),
        ([' '], ⟨.column "first" .equal, ['4'], some '\''⟩),
        ([' ', ' '], ⟨.bare, ['1', '=', '"'], none⟩)]
    IsWriting pieces [' '] ∧
      split (.whole 0) " Name~\"a '\"\t\n~'or'\rFIRST>3 first='4'  1=\" " (some "name") = .ok
        [{ text := "a '", column := some "name", relation := .column .approx, type := .string,
           quoted := true },
          { text := "or", relation := .approx, type := .string, quoted := true, approx := true },
          { text := "3", column := some "first", type := .integer, integer := 3 },
          { text := "1=\"", relation := .approx, type := .string },
          { text := "-2", column := some "rows", type := .integer, integer := -2 },
          { text := "name", column := some "sort", type := .string }] := by
  intro pieces
  have h : IsWriting pieces [' '] := by decide +kernel
  have hsplit := split_writtenTerm (.whole 0) (some "name") h
  refine ⟨h, eq_ok_of_toOption ?_⟩
  exact (congrArg Except.toOption hsplit).trans (by decide +kernel)

end ListingFilter
