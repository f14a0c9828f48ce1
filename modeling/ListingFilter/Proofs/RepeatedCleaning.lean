import Mathlib.Data.Option.Basic
import ListingFilter.Proofs.CleanedTerms
/-!
# Cleaning a cleaned term

A cleaned term is its own cleaned form, but for two things. Trimming takes every blank from the ends
of the text, while only four of the blanks separate parts; a word that loses its first characters so
may be read as something else. And the number of rows that stands for the configured one is known by
its text when it is written, so that `-02`, where no bound applies, is written as `-2` and as the
configured number the next time.
-/

namespace ListingFilter

open Text (isBlank)

variable {clock : Clock} {settings : Settings} {ignoreCap : Bool}

/-! ### The ends of a cleaned term -/

/-- Written out, the keyword begins with a blank. -/
def Keyword.StartsWithBlank (keyword : Keyword) : Prop :=
  keyword.quoted = false ∧ keyword.writtenLead = "" ∧
    ∃ c ∈ keyword.text.toList.head?, isBlank c = true

/-- Written out, the keyword ends with a blank. -/
def Keyword.EndsWithBlank (keyword : Keyword) : Prop :=
  keyword.quoted = false ∧ keyword.column ≠ some "rows" ∧
    ∃ c ∈ keyword.text.toList.getLast?, isBlank c = true

theorem WrittenPart.IsWellFormed.text_ne_nil {part : WrittenPart} (h : part.IsWellFormed) :
    part.text ≠ [] := by
  intro hnil
  obtain ⟨hlead, hbody⟩ := List.append_eq_nil_iff.1 hnil
  cases hmark : part.mark with
  | some mark => simp [hmark] at hbody
  | none =>
    have hbare : part.lead = .bare := by
      cases hlead' : part.lead <;> simp [hlead', Lead.text] at hlead
      rfl
    exact (h.bare hmark hbare).1 (by simpa [hmark] using hbody)

namespace Keyword

variable {keyword : Keyword}

theorem solidEnds_of_rows (h : keyword.column = some "rows") :
    HasSolidEnds (keyword.stored settings ignoreCap).writtenPart.text := by
  rw [stored, if_pos h]
  exact (isWritable_of_setting isWellNamed_rows lower_rows rfl).hasSolidEnds

theorem head_stored (hlegible : keyword.IsLegible) (h : ¬ keyword.StartsWithBlank) :
    ∀ c ∈ (keyword.stored settings ignoreCap).writtenPart.text.head?, isBlank c = false := by
  by_cases hrows : keyword.column = some "rows"
  · exact (solidEnds_of_rows hrows).head
  intro c hc
  rw [stored, if_neg hrows, writtenPart, WrittenPart.text] at hc
  cases hlead : keyword.lead.text with
  | cons d lead =>
    obtain rfl : d = c := by simpa [hlead] using hc
    exact Lead.isBlank_of_mem_text hlegible.wellFormed.lead (hlead ▸ List.mem_cons_self)
  | nil =>
    cases hquoted : keyword.quoted with
    | true =>
      obtain rfl : mark keyword.text = c := by simpa [hlead, hquoted] using hc
      exact Text.isBlank_of_isQuoteMark (isQuoteMark_mark keyword.text)
    | false =>
      have hwritten : keyword.writtenLead = "" :=
        String.toList_injective ((toList_writtenLead hlegible.relation).trans hlead)
      refine Bool.eq_false_iff.2 fun hblank => h ⟨hquoted, hwritten, c, ?_, hblank⟩
      simpa [hlead, hquoted] using hc

theorem last_stored (hlegible : keyword.IsLegible) (h : ¬ keyword.EndsWithBlank) :
    ∀ c ∈ (keyword.stored settings ignoreCap).writtenPart.text.getLast?, isBlank c = false := by
  by_cases hrows : keyword.column = some "rows"
  · exact (solidEnds_of_rows hrows).last
  intro c hc
  rw [stored, if_neg hrows, writtenPart, WrittenPart.text] at hc
  cases hquoted : keyword.quoted with
  | true =>
    simp only [hquoted, if_true] at hc
    rw [← List.append_assoc, List.getLast?_append] at hc
    obtain rfl : mark keyword.text = c := by simpa using hc
    exact Text.isBlank_of_isQuoteMark (isQuoteMark_mark keyword.text)
  | false =>
    simp only [hquoted, Bool.false_eq_true, if_false] at hc
    rw [List.getLast?_append] at hc
    cases hlast : keyword.text.toList.getLast? with
    | some d =>
      obtain rfl : d = c := by simpa [hlast] using hc
      exact Bool.eq_false_iff.2 fun hblank => h ⟨hquoted, hrows, d, hlast, hblank⟩
    | none =>
      have hmem : c ∈ keyword.lead.text.getLast? := by simpa [hlast] using hc
      exact Lead.isBlank_of_mem_text hlegible.wellFormed.lead (List.mem_of_mem_getLast? hmem)

end Keyword

theorem trim_storedTerm_of_ends {keywords : List Keyword}
    (hlegible : ∀ keyword ∈ keywords, keyword.IsLegible)
    (hfirst : ∀ keyword ∈ keywords.head?, ¬ keyword.StartsWithBlank)
    (hlast : ∀ keyword ∈ keywords.getLast?, ¬ keyword.EndsWithBlank) :
    Text.trim (storedTerm settings ignoreCap keywords) =
      storedTerm settings ignoreCap keywords := by
  refine trim_writtenTerm ?_ ?_ ?_
  · intro part hpart
    obtain ⟨keyword, hmem, rfl⟩ := List.mem_map.1 hpart
    exact (Keyword.isLegible_stored (hlegible keyword hmem)).wellFormed.text_ne_nil
  · intro part hpart
    rw [List.head?_map, Option.mem_map] at hpart
    obtain ⟨keyword, hmem, rfl⟩ := hpart
    exact Keyword.head_stored (hlegible keyword (List.mem_of_mem_head? hmem)) (hfirst keyword hmem)
  · intro part hpart
    rw [List.getLast?_map, Option.mem_map] at hpart
    obtain ⟨keyword, hmem, rfl⟩ := hpart
    exact Keyword.last_stored (hlegible keyword (List.mem_of_mem_getLast? hmem))
      (hlast keyword hmem)

/-! ### The number of rows -/

/-- The keyword asks for the configured number of rows, but not by the text that is known to. -/
def Keyword.RespellsConfigured (keyword : Keyword) : Prop :=
  keyword.column = some "rows" ∧ keyword.integerValue = rowsConfigured ∧ keyword.text ≠ "-2"

/-- A greatest number of rows is set and counts. -/
def Settings.Bounds (settings : Settings) (ignoreCap : Bool) : Prop :=
  ignoreCap = false ∧ settings.maxRowsPerPage ≠ 0

instance : Decidable (settings.Bounds ignoreCap) :=
  inferInstanceAs (Decidable (ignoreCap = false ∧ settings.maxRowsPerPage ≠ 0))

theorem capRows_of_not_bounds (h : ¬ settings.Bounds ignoreCap) (rows : Int) :
    capRows settings ignoreCap rows = rows := by
  cases hignore : ignoreCap with
  | true => simp [capRows]
  | false =>
    have hzero : settings.maxRowsPerPage = 0 := by simpa [Settings.Bounds, hignore] using h
    simp [capRows, hzero]

theorem capRows_of_bounds (h : settings.Bounds ignoreCap) (rows : Int) :
    capRows settings ignoreCap rows =
      if rows < 0 ∨ settings.maxRowsPerPage < rows then settings.maxRowsPerPage else rows := by
  simp [capRows, h.1, h.2]

theorem capRows_capRows (rows : Int) :
    capRows settings ignoreCap (capRows settings ignoreCap rows) =
      capRows settings ignoreCap rows := by
  by_cases hbounds : settings.Bounds ignoreCap
  · simp only [capRows_of_bounds hbounds]
    split_ifs with hrows hbound
    · rfl
    · rfl
    · rfl
  · simp only [capRows_of_not_bounds hbounds]

/-- A bound leaves no negative number of rows. -/
theorem capRows_nonneg (hbounds : settings.Bounds ignoreCap) (hcap : 0 ≤ settings.maxRowsPerPage)
    (rows : Int) : 0 ≤ capRows settings ignoreCap rows := by
  rw [capRows_of_bounds hbounds]
  split_ifs with hrows
  · exact hcap
  · omega

namespace Keyword

variable {keyword : Keyword}

/-- The text that stands for the configured number is read as that number. -/
theorem integerValue_of_text (hfaithful : keyword.IsFaithful clock)
    (hcolumn : keyword.column = some "rows") (hlegal : keyword.IsLegal)
    (htext : keyword.text = "-2") : keyword.integerValue = rowsConfigured := by
  have hrelation : keyword.relation = .none := (hlegal "rows" (by decide) hcolumn).1
  have hlead : keyword.lead = .column "rows" .equal := by simp [lead, hcolumn, hrelation]
  have hreread := hfaithful.reread
  rw [part_writtenPart hfaithful.lower, hlead, htext,
    show ("-2" : String) = toString (-2 : Int) from rfl,
    keyword_toString (lower_columnName isWellNamed_rows lower_rows) (by decide)
      (Numeral.lt_digitLimit_of_natAbs_lt (by decide))] at hreread
  have hsetting := Except.ok.inj hreread
  have htype : keyword.type = .integer := (congrArg Keyword.type hsetting).symm
  have hinteger : keyword.integer = -2 := (congrArg Keyword.integer hsetting).symm
  simp [integerValue, isNumeric, htype, ValueType.isNumeric, hinteger, rowsConfigured]

/-- The number that stands for the configured one is written only for another spelling of it, where
no bound counts. -/
theorem writtenRows_eq_configured_iff (hcolumn : keyword.column = some "rows")
    (hrows : 1 ≤ settings.rowsPerPage) (hcap : 0 ≤ settings.maxRowsPerPage) :
    keyword.writtenRows settings ignoreCap = rowsConfigured ↔
      keyword.RespellsConfigured ∧ ¬ settings.Bounds ignoreCap := by
  by_cases hbounds : settings.Bounds ignoreCap
  · have hnonneg : 0 ≤ keyword.writtenRows settings ignoreCap := capRows_nonneg hbounds hcap _
    refine iff_of_false ?_ fun h => h.2 hbounds
    simp only [rowsConfigured]
    omega
  · rw [writtenRows, capRows_of_not_bounds hbounds]
    by_cases htext : keyword.text = "-2"
    · refine iff_of_false ?_ fun h => h.1.2.2 htext
      simp only [htext, if_true, rowsConfigured]
      omega
    · simp [htext, hcolumn, hbounds, RespellsConfigured]

/-- A cleaned number of rows is the setting for the number that was written. -/
theorem cleaned_rows (hlegal : keyword.IsLegal) (hcolumn : keyword.column = some "rows")
    (hrows : 1 ≤ settings.rowsPerPage) (hcap : 0 ≤ settings.maxRowsPerPage) :
    keyword.cleaned settings ignoreCap =
      setting "rows" (keyword.writtenRows settings ignoreCap) false := by
  rw [cleaned, if_pos hcolumn,
    legalValue_of_none (correction?_writtenRows hlegal hcolumn hrows hcap)]

theorem writtenRows_setting (name : String) (rows : Int) (quoted : Bool) :
    (setting name rows quoted).writtenRows settings ignoreCap =
      capRows settings ignoreCap
        (if rows = rowsConfigured then settings.rowsPerPage else rows) := by
  have htext : toString rows = "-2" ↔ rows = rowsConfigured := by
    rw [show ("-2" : String) = toString rowsConfigured from rfl]
    exact Numeral.toString_injective.eq_iff
  simp only [writtenRows, setting, integerValue, isNumeric, ValueType.isNumeric, htext, if_true]

/-- The number of rows that was written is written again, unless it stands for the configured
one. -/
theorem writtenRows_cleaned (hlegal : keyword.IsLegal) (hcolumn : keyword.column = some "rows")
    (hrows : 1 ≤ settings.rowsPerPage) (hcap : 0 ≤ settings.maxRowsPerPage) :
    (keyword.cleaned settings ignoreCap).writtenRows settings ignoreCap =
      if keyword.writtenRows settings ignoreCap = rowsConfigured then
        capRows settings ignoreCap settings.rowsPerPage
      else keyword.writtenRows settings ignoreCap := by
  rw [cleaned_rows hlegal hcolumn hrows hcap, writtenRows_setting]
  split_ifs with hconfigured
  · rfl
  · exact capRows_capRows _

theorem writtenRows_cleaned_eq (hlegal : keyword.IsLegal) (hcolumn : keyword.column = some "rows")
    (hrows : 1 ≤ settings.rowsPerPage) (hcap : 0 ≤ settings.maxRowsPerPage)
    (h : keyword.RespellsConfigured → settings.Bounds ignoreCap) :
    (keyword.cleaned settings ignoreCap).writtenRows settings ignoreCap =
      keyword.writtenRows settings ignoreCap := by
  have hconfigured : keyword.writtenRows settings ignoreCap ≠ rowsConfigured := by
    rw [Ne, writtenRows_eq_configured_iff hcolumn hrows hcap]
    exact fun hbad => hbad.2 (h hbad.1)
  rw [writtenRows_cleaned hlegal hcolumn hrows hcap, if_neg hconfigured]

/-- What is written of a cleaned keyword is what was written of the keyword. -/
theorem writtenPart_stored_cleaned (hlegal : keyword.IsLegal) (hrows : 1 ≤ settings.rowsPerPage)
    (hcap : 0 ≤ settings.maxRowsPerPage)
    (h : keyword.RespellsConfigured → settings.Bounds ignoreCap) :
    ((keyword.cleaned settings ignoreCap).stored settings ignoreCap).writtenPart =
      (keyword.stored settings ignoreCap).writtenPart := by
  by_cases hcolumn : keyword.column = some "rows"
  · rw [stored, stored, column_cleaned, if_pos hcolumn, if_pos hcolumn,
      writtenRows_cleaned_eq hlegal hcolumn hrows hcap h]
  · rw [stored, stored, column_cleaned, if_neg hcolumn, if_neg hcolumn, cleaned, if_neg hcolumn]
    rfl

theorem startsWithBlank_cleaned (h : ¬ keyword.StartsWithBlank) :
    ¬ (keyword.cleaned settings ignoreCap).StartsWithBlank := by
  by_cases hcolumn : keyword.column = some "rows"
  · rw [cleaned, if_pos hcolumn]
    rintro ⟨-, hlead, -⟩
    simp [writtenLead, setting] at hlead
  · rwa [cleaned, if_neg hcolumn]

theorem endsWithBlank_cleaned (h : ¬ keyword.EndsWithBlank) :
    ¬ (keyword.cleaned settings ignoreCap).EndsWithBlank := by
  by_cases hcolumn : keyword.column = some "rows"
  · rintro ⟨-, hne, -⟩
    exact hne (column_cleaned.trans hcolumn)
  · rwa [cleaned, if_neg hcolumn]

end Keyword

/-! ### Cleaning again -/

section Terms

variable {term cleaned : String} {keywords : List Keyword}

theorem clean_none_eq_ok_iff (hsplit : split clock term settings.defaultSort = .ok keywords)
    (hfirst : ∀ keyword ∈ keywords.head?, ¬ keyword.StartsWithBlank)
    (hlast : ∀ keyword ∈ keywords.getLast?, ¬ keyword.EndsWithBlank) :
    clean clock settings ignoreCap none (some term) = .ok cleaned ↔
      cleaned = storedTerm settings ignoreCap keywords ∧
        ∀ keyword ∈ keywords, keyword.column = some "rows" →
          (keyword.writtenRows settings ignoreCap).natAbs < 10 ^ Numeral.digitLimit := by
  have hlegible : ∀ keyword ∈ keywords, keyword.IsLegible :=
    fun keyword hmem => (isFaithful_of_mem_split hsplit keyword hmem).1.toIsLegible
  rw [clean_eq_ok_iff hsplit, filter_isRemoved_none, trim_storedTerm_of_ends hlegible hfirst hlast]

theorem storedTerm_map_cleaned (hlegal : ∀ keyword ∈ keywords, keyword.IsLegal)
    (hrows : 1 ≤ settings.rowsPerPage) (hcap : 0 ≤ settings.maxRowsPerPage)
    (h : ∀ keyword ∈ keywords, keyword.RespellsConfigured → settings.Bounds ignoreCap) :
    storedTerm settings ignoreCap (keywords.map (Keyword.cleaned settings ignoreCap)) =
      storedTerm settings ignoreCap keywords := by
  have hwritten : ∀ keyword ∈ keywords,
      ((keyword.cleaned settings ignoreCap).stored settings ignoreCap).writtenPart =
        (keyword.stored settings ignoreCap).writtenPart :=
    fun keyword hmem =>
      Keyword.writtenPart_stored_cleaned (hlegal keyword hmem) hrows hcap (h keyword hmem)
  rw [storedTerm, storedTerm, List.map_map, ← List.map_congr_left hwritten]
  rfl

theorem startsWithBlank_map_cleaned (h : ∀ keyword ∈ keywords.head?, ¬ keyword.StartsWithBlank) :
    ∀ keyword ∈ (keywords.map (Keyword.cleaned settings ignoreCap)).head?,
      ¬ keyword.StartsWithBlank := by
  intro keyword hmem
  rw [List.head?_map, Option.mem_map] at hmem
  obtain ⟨before, hbefore, rfl⟩ := hmem
  exact Keyword.startsWithBlank_cleaned (h before hbefore)

theorem endsWithBlank_map_cleaned (h : ∀ keyword ∈ keywords.getLast?, ¬ keyword.EndsWithBlank) :
    ∀ keyword ∈ (keywords.map (Keyword.cleaned settings ignoreCap)).getLast?,
      ¬ keyword.EndsWithBlank := by
  intro keyword hmem
  rw [List.getLast?_map, Option.mem_map] at hmem
  obtain ⟨before, hbefore, rfl⟩ := hmem
  exact Keyword.endsWithBlank_cleaned (h before hbefore)

/-- A cleaned term is its own cleaned form, if no blank was trimmed from its ends and the number of
rows was not another spelling of the configured one that no bound replaces. -/
theorem clean_cleaned (hrows : 1 ≤ settings.rowsPerPage) (hcap : 0 ≤ settings.maxRowsPerPage)
    (hsplit : split clock term settings.defaultSort = .ok keywords)
    (hfirst : ∀ keyword ∈ keywords.head?, ¬ keyword.StartsWithBlank)
    (hlast : ∀ keyword ∈ keywords.getLast?, ¬ keyword.EndsWithBlank)
    (hclean : clean clock settings ignoreCap none (some term) = .ok cleaned) :
    clean clock settings ignoreCap none (some cleaned) = .ok cleaned ↔
      ∀ keyword ∈ keywords, keyword.RespellsConfigured → settings.Bounds ignoreCap := by
  obtain ⟨rfl, hlimit⟩ := (clean_none_eq_ok_iff hsplit hfirst hlast).1 hclean
  have hlegal : ∀ keyword ∈ keywords, keyword.IsLegal :=
    fun keyword hmem => (isFaithful_of_mem_split hsplit keyword hmem).2
  have hagain : split clock (storedTerm settings ignoreCap keywords) settings.defaultSort =
      .ok (keywords.map (Keyword.cleaned settings ignoreCap)) :=
    split_stored (isSettled_of_split hsplit).1 (isSettled_of_split hsplit).2
      (fun keyword hmem => (isFaithful_of_mem_split hsplit keyword hmem).1) hlimit
  rw [clean_none_eq_ok_iff hagain (startsWithBlank_map_cleaned hfirst)
    (endsWithBlank_map_cleaned hlast)]
  constructor
  · rintro ⟨hsame, hlimit'⟩ keyword hmem hrespells
    by_contra hbounds
    -- the text is read twice, as the keywords and as the keywords cleaned once more
    have htwice := split_stored (isSettled_of_split hagain).1 (isSettled_of_split hagain).2
      (fun keyword hmem => (isFaithful_of_mem_split hagain keyword hmem).1) hlimit'
    rw [← storedTerm, ← hsame, hagain, Except.ok.injEq, List.map_map, List.map_inj_left] at htwice
    have hlegal' := (isFaithful_of_mem_split hagain _ (List.mem_map_of_mem hmem)).2
    have hconfigured : keyword.writtenRows settings ignoreCap = rowsConfigured :=
      (Keyword.writtenRows_eq_configured_iff hrespells.1 hrows hcap).2 ⟨hrespells, hbounds⟩
    have hfixed := htwice keyword hmem
    rw [Function.comp_apply,
      Keyword.cleaned_rows hlegal' (Keyword.column_cleaned.trans hrespells.1) hrows hcap,
      Keyword.writtenRows_cleaned (hlegal keyword hmem) hrespells.1 hrows hcap,
      if_pos hconfigured, Keyword.cleaned_rows (hlegal keyword hmem) hrespells.1 hrows hcap,
      hconfigured, capRows_of_not_bounds hbounds] at hfixed
    have hinteger : rowsConfigured = settings.rowsPerPage := congrArg Keyword.integer hfixed
    rw [rowsConfigured] at hinteger
    omega
  · intro h
    refine ⟨(storedTerm_map_cleaned hlegal hrows hcap h).symm, ?_⟩
    intro keyword hmem hcolumn
    obtain ⟨before, hbefore, rfl⟩ := List.mem_map.1 hmem
    rw [Keyword.column_cleaned] at hcolumn
    rw [Keyword.writtenRows_cleaned_eq (hlegal before hbefore) hcolumn hrows hcap
      (h before hbefore)]
    exact hlimit before hbefore hcolumn

end Terms

/-- The other spelling of the configured number is replaced by the bound, and the term stays. -/
theorem clean_cleaned_bounded :
    clean (.whole 0) {} false none (some "rows=1000 ~apple first=1 sort=name") =
      .ok "rows=1000 ~apple first=1 sort=name" := by
  have hsplit : split (.whole 0) "rows=-02 ~apple" (Settings.defaultSort {}) = .ok
      [{ text := "-02", column := some "rows", type := .integer, integer := -2 },
        { text := "apple", relation := .approx, type := .string, approx := true },
        { text := "1", column := some "first", type := .integer, integer := 1 },
        { text := "name", column := some "sort", type := .string }] :=
    eq_ok_of_toOption (by decide +kernel)
  have hclean : clean (.whole 0) {} false none (some "rows=-02 ~apple") =
      .ok "rows=1000 ~apple first=1 sort=name" :=
    eq_ok_of_toOption (by decide +kernel)
  refine (clean_cleaned (by decide) (by decide) hsplit ?_ ?_ hclean).2 fun _ _ _ => by decide
  · rintro _ ⟨⟩ ⟨-, hlead, -⟩
    revert hlead
    decide
  · rintro _ ⟨⟩ ⟨-, -, c, hlast, hblank⟩
    obtain rfl : 'e' = c := by simpa using hlast
    revert hblank
    decide

/-- Cleaning again may change a cleaned term: a quotation mark that followed a blank opens a quoted
text once the blank is trimmed, and without a bound the configured number is written in two
steps. -/
theorem clean_cleaned_blank_mark :
    clean (.whole 0) {} false none (some "\u00a0\"abc") =
        .ok "\"abc first=1 rows=10 sort=name" ∧
      clean (.whole 0) {} false none (some "\"abc first=1 rows=10 sort=name") =
        .ok "\"abc first=1 rows=10 sort=name\" first=1 rows=10 sort=name" ∧
      clean (.whole 0) {} true none (some "rows=-02") = .ok "rows=-2 first=1 sort=name" ∧
      clean (.whole 0) {} true none (some "rows=-2 first=1 sort=name") =
        .ok "rows=10 first=1 sort=name" := by
  refine ⟨eq_ok_of_toOption ?_, eq_ok_of_toOption ?_, eq_ok_of_toOption ?_,
    eq_ok_of_toOption ?_⟩ <;> decide +kernel

end ListingFilter
