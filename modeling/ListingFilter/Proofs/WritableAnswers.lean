import ListingFilter.Http.Response
import ListingFilter.Proofs.PageAgreement
import ListingFilter.Proofs.ReadJson
import ListingFilter.Proofs.UnknownColumns
/-!
# Answers that can be written

An answer holds the page of a listing and its cleaned filter. Neither asks for an integer that is
too long to be written, unless the settings do: the integer of a control keyword is written when it
is read, and a bound or a default of the number of rows comes from the settings.
-/

namespace ListingFilter

/-! ### Integers of control keywords -/

namespace Keyword

variable {keyword result : Keyword} {column : String}

theorem natAbs_integerValue_of_legal (hcolumn : keyword.column = some column)
    (hlower : Text.lower column = column) (hinteger : column ∈ integerControls)
    (h : keyword.legal = .ok result) :
    result.integerValue.natAbs < 10 ^ Numeral.digitLimit := by
  rcases legal_cases hcolumn hlower h with ⟨hcontrol, -⟩ | ⟨-, hother, -⟩ |
    ⟨-, value, hcorrection, rfl⟩ | ⟨-, -, hlimit, rfl⟩
  · exact absurd (integerControls_subset hinteger) hcontrol
  · exact absurd hinteger hother
  · rw [integerValue_withControl fun _ hne => absurd rfl hne]
    exact Numeral.lt_digitLimit_of_natAbs_lt (correction?_natAbs hcorrection)
  · rwa [integerValue_withControl fun htype _ => by simp [controlValue, htype]]

end Keyword

section Terms

variable {clock : Clock} {term : String} {defaultSort : Option String} {keywords : List Keyword}
  {settings : Settings} {ignoreCap : Bool}

/-- The integers of the control keywords of a term can be written. -/
theorem natAbs_integerValue_of_split (h : split clock term defaultSort = .ok keywords)
    {keyword : Keyword} (hmem : keyword ∈ keywords) {column : String}
    (hinteger : column ∈ Keyword.integerControls) (hcolumn : keyword.column = some column) :
    keyword.integerValue.natAbs < 10 ^ Numeral.digitLimit := by
  rcases part_or_default_of_split h hmem with ⟨part, hpart, hkeyword⟩ | ⟨written, hdefault⟩
  · rcases Part.keyword_cases hkeyword with ⟨-, rfl⟩ | ⟨-, value, -, rfl⟩ |
      ⟨name, comparison, value, hlead, -, hlegal⟩
    · simp at hcolumn
    · cases hcolumn
    · have hsame := Part.column?_of_keyword hpart hkeyword
      rw [Part.column?, hlead, hcolumn] at hsame
      obtain rfl : column = name := Option.some.inj hsame
      exact Keyword.natAbs_integerValue_of_legal rfl (Part.lower_of_mem_ofTerm hpart hlead) hinteger
        hlegal
  · rcases mem_defaultKeywords hdefault with ⟨rfl, -⟩ | ⟨rfl, -⟩ | ⟨field, -, rfl⟩
    · exact Numeral.lt_digitLimit_of_natAbs_lt (by decide)
    · exact Numeral.lt_digitLimit_of_natAbs_lt (by decide)
    · obtain rfl : "sort" = column := Option.some.inj hcolumn
      exact absurd hinteger (by decide)

theorem natAbs_controlInteger (h : split clock term defaultSort = .ok keywords) {column : String}
    (hinteger : column ∈ Keyword.integerControls) {fallback : Int}
    (hfallback : fallback.natAbs < 1000) :
    (controlInteger keywords column fallback).natAbs < 10 ^ Numeral.digitLimit := by
  rw [controlInteger]
  cases hfound : findColumn? keywords column with
  | none => exact Numeral.lt_digitLimit_of_natAbs_lt hfallback
  | some keyword =>
    exact natAbs_integerValue_of_split h (List.mem_of_find?_eq_some hfound) hinteger
      (column_of_findColumn? hfound)

/-! ### Bounds of the page -/

/-- The numbers of rows that the settings name can be written. -/
structure Settings.IsWritable (settings : Settings) : Prop where
  rows : settings.rowsPerPage.natAbs < 10 ^ Numeral.digitLimit
  bound : settings.maxRowsPerPage.natAbs < 10 ^ Numeral.digitLimit

theorem natAbs_resolveFirst {first : Int} (h : first.natAbs < 10 ^ Numeral.digitLimit) :
    (resolveFirst first).natAbs < 10 ^ Numeral.digitLimit := by
  rw [resolveFirst]
  omega

theorem natAbs_capRows (hsettings : settings.IsWritable) {rows : Int}
    (h : rows.natAbs < 10 ^ Numeral.digitLimit) :
    (capRows settings ignoreCap rows).natAbs < 10 ^ Numeral.digitLimit := by
  simp only [capRows]
  split_ifs
  · exact h
  · exact hsettings.bound
  · exact h

theorem natAbs_resolveRows (hsettings : settings.IsWritable) {rows : Int}
    (h : rows.natAbs < 10 ^ Numeral.digitLimit) :
    (resolveRows settings ignoreCap rows).natAbs < 10 ^ Numeral.digitLimit := by
  refine natAbs_capRows hsettings ?_
  rw [rowsAsked]
  split_ifs
  · exact hsettings.rows
  · exact Numeral.lt_digitLimit_of_natAbs_lt (by decide)
  · exact h

/-- The page of a clause can be written. -/
theorem Clause.natAbs_page {scope : Scope} {clause : Clause} (hsettings : scope.settings.IsWritable)
    (h : Clause.compile clock scope term = .ok clause) :
    clause.first.natAbs < 10 ^ Numeral.digitLimit ∧
      clause.max.natAbs < 10 ^ Numeral.digitLimit := by
  obtain ⟨keywords, hsplit, hfirst, hmax⟩ := Clause.page_eq_controlsOf h
  rw [hfirst, hmax]
  exact ⟨natAbs_resolveFirst (natAbs_controlInteger hsplit (by decide) (by decide)),
    natAbs_resolveRows hsettings (natAbs_controlInteger hsplit (by decide) (by decide))⟩

/-- A term that can be split can be cleaned. -/
theorem exists_clean (hsettings : settings.IsWritable)
    (h : split clock term settings.defaultSort = .ok keywords) :
    ∃ cleaned, clean clock settings ignoreCap none (some term) = .ok cleaned := by
  refine ⟨_, (clean_eq_ok_iff h).2 ⟨rfl, fun keyword hmem hrows => ?_⟩⟩
  refine natAbs_capRows hsettings ?_
  split_ifs
  · exact hsettings.rows
  · exact natAbs_integerValue_of_split h (List.mem_of_mem_filter hmem) (by decide) hrows

end Terms

/-! ### Bodies of answers -/

namespace Http.Response

/-- An answer can be written if all its members can. -/
theorem isSome_shown?_success {members : List (String × Json)}
    (h : ∀ member ∈ members, member.2.IsWritable) :
    (success members).body.shown?.isSome = true :=
  Json.isWritable_object_iff.2 (List.forall_mem_cons.2 ⟨rfl, h⟩)

end Http.Response

end ListingFilter
