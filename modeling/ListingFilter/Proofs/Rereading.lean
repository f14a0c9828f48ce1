import ListingFilter.Cleaning
import ListingFilter.Keyword.Split
import ListingFilter.Proofs.PartKeywords
import ListingFilter.Proofs.Scanning
/-!
# Keywords that are written and read again

`Keyword.writtenPart` is the part of a term that a keyword is written as. A keyword is faithful if
that part is well-formed and stands for the keyword again. Every keyword of a term is faithful, so
`Keyword.reread` changes next to nothing: of an integer keyword only the integer is read again, and
its double is zero. If all blanks of the term separate its parts, the keywords are stable: what is
written of them has no blanks at its ends either.
-/

namespace ListingFilter

open Text (isBlank)

/-! ### Well-formed parts -/

namespace WrittenPart

/-- A body of name characters after a lead is well-formed, quoted or not. -/
theorem isWellFormed_of_isNameCharacter {part : WrittenPart} (hlead : part.lead ≠ .bare)
    (hname : part.lead.isWellNamed = true) (hmark : ∀ mark ∈ part.mark, isQuoteMark mark = true)
    (hbody : ∀ c ∈ part.body, isNameCharacter c = true) : part.IsWellFormed where
  lead := hname
  quoted mark hmem := by
    refine ⟨hmark mark hmem, fun hbad => ?_⟩
    have hquote := hmark mark hmem
    rw [(isNameCharacter_plain (hbody mark hbad)).2.1] at hquote
    cases hquote
  unquoted _ := by
    refine ⟨fun c hc => (isNameCharacter_plain (hbody c hc)).1, fun c hc => ?_⟩
    exact (isNameCharacter_plain (hbody c (List.mem_of_mem_head? hc))).2.1
  bare _ hbare := absurd hbare hlead

/-- The marks around the body may be exchanged for others that are not in the body, and the lead for
another one unless it is missing. -/
theorem IsWellFormed.exchange {part other : WrittenPart} (h : part.IsWellFormed)
    (hbody : other.body = part.body) (hname : other.lead.isWellNamed = true)
    (hbare : other.lead = .bare → part.lead = .bare) (hmark : other.mark = none → part.mark = none)
    (hquoted : ∀ mark ∈ other.mark, isQuoteMark mark = true ∧ mark ∉ other.body) :
    other.IsWellFormed where
  lead := hname
  quoted := hquoted
  unquoted hnone := by
    rw [hbody]
    exact h.unquoted (hmark hnone)
  bare hnone hlead := by
    rw [hbody]
    exact h.bare (hmark hnone) (hbare hlead)

end WrittenPart

namespace Keyword

/-! ### The part that a keyword is written as -/

/-- The lead that the keyword is written with. -/
def lead (keyword : Keyword) : Lead :=
  match keyword.column with
  | none => if keyword.equal then .exact else if keyword.approx then .approx else .bare
  | some column =>
    .column column (match keyword.relation with
      | .column comparison => comparison
      | _ => .equal)

/-- The mark around the value if it is quoted. -/
def mark (text : String) : Char :=
  if text.toList.contains '"' && !text.toList.contains '\'' then '\'' else '"'

/-- The part that the keyword is written as. -/
def writtenPart (keyword : Keyword) : WrittenPart :=
  ⟨keyword.lead, keyword.text.toList, if keyword.quoted then some (mark keyword.text) else none⟩

/-- A value that can be quoted at all is written in a mark that it does not hold. -/
theorem mark_not_mem {text : String} {other : Char} (hother : isQuoteMark other = true)
    (h : other ∉ text.toList) :
    isQuoteMark (mark text) = true ∧ mark text ∉ text.toList := by
  by_cases hdouble : '"' ∈ text.toList
  · have hsingle : '\'' ∉ text.toList := by
      rcases (isQuoteMark_iff other).1 hother with rfl | rfl
      · exact absurd hdouble h
      · exact h
    have hmark : mark text = '\'' := by simp [mark, hdouble, hsingle]
    exact hmark ▸ ⟨rfl, hsingle⟩
  · have hmark : mark text = '"' := by simp [mark, hdouble]
    exact hmark ▸ ⟨rfl, hdouble⟩

theorem isQuoteMark_mark (text : String) : isQuoteMark (mark text) = true := by
  unfold mark
  split_ifs <;> rfl

theorem quoteBody_eq (text : String) :
    (quoteBody text).toList = mark text :: text.toList ++ [mark text] := by
  simp only [quoteBody, mark]
  split_ifs <;> simp

theorem toList_writtenLead {keyword : Keyword}
    (h : keyword.column.isSome = true → keyword.relation ≠ .approx) :
    keyword.writtenLead.toList = keyword.lead.text := by
  cases hcolumn : keyword.column with
  | none =>
    simp only [writtenLead, lead, hcolumn]
    split_ifs <;> rfl
  | some column =>
    cases hrelation : keyword.relation with
    | none => simp [writtenLead, lead, hcolumn, hrelation, Lead.text, Comparison.symbol]
    | approx => exact absurd hrelation (h (by simp [hcolumn]))
    | column comparison =>
      simp [writtenLead, lead, hcolumn, hrelation, Lead.text, Relation.symbol]

/-- The text of the part is the text of the keyword. -/
theorem writtenLead_append_writtenBody {keyword : Keyword}
    (h : keyword.column.isSome = true → keyword.relation ≠ .approx) :
    keyword.writtenLead ++ keyword.writtenBody = String.ofList keyword.writtenPart.text := by
  apply String.toList_injective
  rw [String.toList_append, toList_writtenLead h, String.toList_ofList]
  cases hquoted : keyword.quoted <;>
    simp [writtenBody, writtenPart, WrittenPart.text, hquoted, quoteBody_eq]

theorem part_writtenPart {keyword : Keyword} (h : keyword.lead.lower = keyword.lead) :
    keyword.writtenPart.part = ⟨keyword.lead, keyword.text, keyword.quoted⟩ := by
  cases hquoted : keyword.quoted <;> simp [writtenPart, WrittenPart.part, h, hquoted]

/-! ### Stable keywords -/

/-- The keyword after it has been written and read again. -/
def reread (keyword : Keyword) : Keyword :=
  { keyword with double := if keyword.type = .integer then .zero else keyword.double }

/-- A keyword that is written as a well-formed part. -/
structure IsLegible (keyword : Keyword) : Prop where
  wellFormed : keyword.writtenPart.IsWellFormed
  lower : keyword.lead.lower = keyword.lead
  relation : keyword.column.isSome = true → keyword.relation ≠ .approx

/-- A keyword that is written as a well-formed part without blanks at its ends. -/
structure IsWritable (keyword : Keyword) : Prop extends IsLegible keyword where
  solid : keyword.quoted = false → ∀ c ∈ keyword.text.toList, isBlank c = false

/-- A keyword that is written as a part which stands for the keyword again. -/
structure IsFaithful (clock : Clock) (keyword : Keyword) : Prop extends IsLegible keyword where
  reread : keyword.writtenPart.part.keyword clock = .ok keyword.reread

/-- A faithful keyword without blanks at its ends. -/
structure IsStable (clock : Clock) (keyword : Keyword) : Prop
    extends IsWritable keyword, IsFaithful clock keyword

/-- Without a stale double a keyword is read again as it was. -/
theorem reread_eq_self {keyword : Keyword}
    (h : keyword.type = .integer → keyword.double = .zero) : keyword.reread = keyword := by
  by_cases htype : keyword.type = .integer
  · simp only [Keyword.reread, if_pos htype, ← h htype]
  · simp only [Keyword.reread, if_neg htype]

end Keyword

theorem Lead.lower_column_iff {name : String} {comparison : Comparison} :
    (Lead.column name comparison).lower = .column name comparison ↔
      name.toList.map Char.toLower = name.toList := by
  rw [Lead.lower, Lead.column.injEq, ← String.toList_inj, String.toList_ofList]
  exact and_iff_left rfl

/-- In lower case a column name is its own lower-case form, letters of other scripts included. -/
theorem lower_columnName {name : String} {comparison : Comparison}
    (hname : (Lead.column name comparison).isWellNamed = true)
    (hlower : (Lead.column name comparison).lower = .column name comparison) :
    Text.lower name = name := by
  exact Text.lower_eq_self (isNameCharacter_of_isColumnName hname) (Lead.lower_column_iff.1 hlower)

/-- The columns of a term have names by the rules, and are read in lower case. -/
theorem Part.isWellNamed_of_mem_ofTerm {term : String} {part : Part} (h : part ∈ Part.ofTerm term) :
    part.lead.isWellNamed = true ∧ part.lead.lower = part.lead := by
  obtain ⟨written, hscanned, rfl⟩ := Part.ofTerm_finds h
  rw [hscanned.part_eq]
  exact ⟨hscanned.wellFormed.lead, hscanned.lower⟩

theorem Part.lower_of_mem_ofTerm {term : String} {part : Part} (h : part ∈ Part.ofTerm term)
    {name : String} {comparison : Comparison} (hlead : part.lead = .column name comparison) :
    Text.lower name = name := by
  obtain ⟨hname, hlower⟩ := Part.isWellNamed_of_mem_ofTerm h
  rw [hlead] at hname hlower
  exact lower_columnName hname hlower

namespace Keyword

section Parts

variable {clock : Clock} {source : List Char} {written : WrittenPart} {keyword : Keyword}

/-- The text of a part that was found in a text whose blanks all separate. -/
theorem solid_of_isScanned (h : written.IsScanned source)
    (hblank : ∀ c ∈ source, isBlank c = true → isSeparator c = true) (hmark : written.mark = none) :
    ∀ c ∈ written.body, isBlank c = false := by
  intro c hc
  refine Bool.eq_false_iff.2 fun hbad => ?_
  have hseparator := (h.wellFormed.unquoted hmark).1 c hc
  rw [hblank c (h.body c hc) hbad] at hseparator
  cases hseparator

/-- A keyword with the text of a part that was found, and a lead like that of the part, is written
as a well-formed part. -/
theorem wellFormed_of_isScanned (h : written.IsScanned source)
    (htext : keyword.text = String.ofList written.body)
    (hquoted : keyword.quoted = written.mark.isSome)
    (hname : keyword.lead.isWellNamed = true)
    (hbare : keyword.lead = .bare → written.lead = .bare) :
    keyword.writtenPart.IsWellFormed := by
  have hbody : keyword.writtenPart.body = written.body := by simp [writtenPart, htext]
  refine h.wellFormed.exchange hbody hname hbare ?_ ?_
  · intro hnone
    cases hmark : written.mark with
    | none => rfl
    | some mark => simp [writtenPart, hquoted, hmark] at hnone
  · intro mark hmem
    cases hmark : written.mark with
    | none => simp [writtenPart, hquoted, hmark] at hmem
    | some other =>
      obtain ⟨hquote, hnot⟩ := h.wellFormed.quoted other hmark
      have hunmarked : other ∉ keyword.text.toList := by simpa [htext] using hnot
      have hchosen := mark_not_mem hquote hunmarked
      obtain rfl : Keyword.mark keyword.text = mark := by
        simpa [writtenPart, hquoted, hmark] using hmem
      rwa [hbody, ← show keyword.text.toList = written.body by simp [htext]]

/-- A keyword that is written as the part that it comes from. -/
theorem isFaithful_of_lead_eq (h : written.IsScanned source)
    (hkeyword : written.part.keyword clock = .ok keyword) (hlead : keyword.lead = written.lead)
    (htext : keyword.text = String.ofList written.body)
    (hquoted : keyword.quoted = written.mark.isSome)
    (hrelation : keyword.column.isSome = true → keyword.relation ≠ .approx)
    (hdouble : keyword.type = .integer → keyword.double = .zero) : IsFaithful clock keyword where
  wellFormed := wellFormed_of_isScanned h htext hquoted (hlead ▸ h.wellFormed.lead)
    fun hbare => hlead ▸ hbare
  lower := hlead ▸ h.lower
  relation := hrelation
  reread := by
    have hpart : keyword.writtenPart.part = written.part := by
      rw [part_writtenPart (hlead ▸ h.lower), h.part_eq, hlead, htext, hquoted]
    rw [hpart, hkeyword, reread_eq_self hdouble]

/-- A control keyword with the text of the part that it comes from. -/
theorem isFaithful_of_control {name : String} {comparison : Comparison}
    (h : written.IsScanned source) (hwritten : written.lead = .column name comparison)
    (hcontrol : name ∈ controlColumns)
    (hkeyword : written.part.keyword clock = .ok keyword) (hcolumn : keyword.column = some name)
    (hrelation : keyword.relation = .none) (htext : keyword.text = String.ofList written.body)
    (hquoted : keyword.quoted = written.mark.isSome)
    (hdouble : keyword.type = .integer → keyword.double = .zero) : IsFaithful clock keyword := by
  have hlead : keyword.lead = .column name .equal := by simp [lead, hcolumn, hrelation]
  have hname : (Lead.column name comparison).isWellNamed = true := hwritten ▸ h.wellFormed.lead
  have hlower : (Lead.column name comparison).lower = .column name comparison := hwritten ▸ h.lower
  have hlowerLead : keyword.lead.lower = keyword.lead := by
    rw [hlead]
    exact Lead.lower_column_iff.2 (Lead.lower_column_iff.1 hlower)
  refine ⟨⟨?_, hlowerLead, fun _ => by simp [hrelation]⟩, ?_⟩
  · exact wellFormed_of_isScanned h htext hquoted (by rw [hlead]; exact hname)
      fun hbare => by simp [hlead] at hbare
  · -- the comparison of the term is lost, but a control column has no use for it
    rw [part_writtenPart hlowerLead, hlead, htext, hquoted, reread_eq_self hdouble, ← hkeyword,
      h.part_eq, hwritten]
    exact keyword_comparison (lower_columnName hname hlower) hcontrol _ _ _ _

theorem lead_of_setting {name : String} {value : Int}
    (hsetting : keyword.reread = setting name value keyword.quoted) :
    keyword.lead = .column name .equal := by
  have hcolumn : keyword.column = some name := congrArg Keyword.column hsetting
  have hrelation : keyword.relation = .none := congrArg Keyword.relation hsetting
  simp [lead, hcolumn, hrelation]

/-- A setting can be written, legal or not. -/
theorem isWritable_of_setting {name : String} {value : Int}
    (hname : (Lead.column name .equal).isWellNamed = true)
    (hlower : (Lead.column name .equal).lower = .column name .equal)
    (hsetting : keyword.reread = setting name value keyword.quoted) : IsWritable keyword := by
  have hlead := lead_of_setting hsetting
  have hrelation : keyword.relation = .none := congrArg Keyword.relation hsetting
  have htext : keyword.text = toString value := congrArg Keyword.text hsetting
  have hbody : ∀ c ∈ keyword.text.toList, isNameCharacter c = true := by
    rw [htext]
    exact fun c hc => Numeral.isNameCharacter_of_mem_toString hc
  refine ⟨⟨?_, hlead ▸ hlower, fun _ => by simp [hrelation]⟩, fun _ c hc => ?_⟩
  · refine WrittenPart.isWellFormed_of_isNameCharacter (by simp [writtenPart, hlead]) ?_ ?_ hbody
    · simpa [writtenPart, hlead] using hname
    · intro mark hmem
      cases hquoted : keyword.quoted with
      | false => simp [writtenPart, hquoted] at hmem
      | true =>
        obtain rfl : Keyword.mark keyword.text = mark := by
          simpa [writtenPart, hquoted] using hmem
        exact isQuoteMark_mark _
  · exact Text.isBlank_of_isNameCharacter (hbody c hc)

theorem part_of_setting {name : String} {value : Int}
    (hlower : (Lead.column name .equal).lower = .column name .equal)
    (hsetting : keyword.reread = setting name value keyword.quoted) :
    keyword.writtenPart.part = ⟨.column name .equal, toString value, keyword.quoted⟩ := by
  have hlead := lead_of_setting hsetting
  have htext : keyword.text = toString value := congrArg Keyword.text hsetting
  rw [part_writtenPart (hlead ▸ hlower), hlead, htext]

/-- A setting that is legal is stable, whatever its double. -/
theorem isStable_of_setting {name : String} {value : Int}
    (hname : (Lead.column name .equal).isWellNamed = true)
    (hlower : (Lead.column name .equal).lower = .column name .equal)
    (hinteger : name ∈ integerControls) (hlegal : correction? name value = none)
    (hlimit : value.natAbs < 10 ^ Numeral.digitLimit)
    (hsetting : keyword.reread = setting name value keyword.quoted) : IsStable clock keyword where
  toIsWritable := isWritable_of_setting hname hlower hsetting
  reread := by
    rw [part_of_setting hlower hsetting, hsetting,
      keyword_toString (lower_columnName hname hlower) hinteger hlimit, legalValue_of_none hlegal]

end Parts

/-! ### Every keyword of a term is faithful, and stable if all blanks separate -/

section Leads

variable {clock : Clock} {source : List Char} {written : WrittenPart} {keyword : Keyword}

theorem isFaithful_of_freeText (h : written.IsScanned source)
    (hlead : written.lead = .bare ∨ written.lead = .approx)
    (hkeyword : written.part.keyword clock = .ok written.part.freeText) :
    IsFaithful clock written.part.freeText := by
  refine isFaithful_of_lead_eq h hkeyword ?_ ?_ ?_ (by simp) (by simp)
  · rcases hlead with hlead | hlead <;> simp [lead, h.part_eq, hlead]
  · simp [h.part_eq]
  · simp [h.part_eq]

theorem isFaithful_of_exact {value : TypedValue} (h : written.IsScanned source)
    (hlead : written.lead = .exact)
    (hkeyword : written.part.keyword clock = .ok (written.part.typed none .approx value)) :
    IsFaithful clock (written.part.typed none .approx value) := by
  refine isFaithful_of_lead_eq h hkeyword ?_ ?_ ?_ ?_ TypedValue.doubleValue_of_type
  · simp [lead, Part.typed, h.part_eq, hlead]
  · simp [Part.typed, h.part_eq]
  · simp [Part.typed, h.part_eq]
  · simp [Part.typed]

theorem isFaithful_of_column {name : String} {comparison : Comparison} {value : TypedValue}
    (h : written.IsScanned source)
    (hlead : written.lead = .column name comparison)
    (hkeyword : written.part.keyword clock = .ok keyword)
    (hvalue : TypedValue.of clock (some name) written.part.body = .ok value)
    (hlegal : (written.part.typed (some name) (.column comparison) value).legal = .ok keyword) :
    IsFaithful clock keyword := by
  have hname : (Lead.column name comparison).isWellNamed = true := hlead ▸ h.wellFormed.lead
  have hlower : (Lead.column name comparison).lower = .column name comparison := hlead ▸ h.lower
  have hlowerEqual : (Lead.column name .equal).lower = .column name .equal :=
    Lead.lower_column_iff.2 (Lead.lower_column_iff.1 hlower)
  have hself : Text.lower name = name := lower_columnName hname hlower
  have hexact : (written.part.lead == .exact) = false := by simp [h.part_eq, hlead]
  generalize htyped : written.part.typed (some name) (.column comparison) value = typed at hlegal
  have hcolumn : typed.column = some name := htyped ▸ rfl
  have htext : typed.text = String.ofList written.body := htyped ▸ rfl
  have hquoted : typed.quoted = written.mark.isSome := htyped ▸ rfl
  have hdouble : typed.type = .integer → typed.double = .zero :=
    htyped ▸ TypedValue.doubleValue_of_type
  rcases legal_cases hcolumn hself hlegal with ⟨-, rfl⟩ | ⟨hcontrol, -, rfl⟩ |
    ⟨hinteger, corrected, hcorrection, rfl⟩ | ⟨hinteger, -, hlimit, rfl⟩
  · refine isFaithful_of_lead_eq h hkeyword ?_ htext hquoted ?_ hdouble
    · rw [hlead, ← htyped]
      rfl
    · rw [← htyped]
      simp [Part.typed]
  · exact isFaithful_of_control h hlead hcontrol hkeyword hcolumn rfl htext hquoted hdouble
  · -- the text is written anew, so it is read as the integer that it stands for
    refine (isStable_of_setting hname hlowerEqual hinteger (correction?_correction hcorrection)
      (Numeral.lt_digitLimit_of_natAbs_lt (correction?_natAbs hcorrection)) ?_).toIsFaithful
    rw [← htyped]
    simp [withControl, Keyword.reread, setting, Part.typed, hexact]
  · refine isFaithful_of_control h hlead (integerControls_subset hinteger) hkeyword hcolumn rfl
      htext hquoted fun htype => ?_
    by_cases hdecimal : typed.text = toString typed.controlValue
    · -- the text is the decimal text of the value, and is typed as such
      have hbody : written.part.body = toString typed.controlValue := htext.symm.trans hdecimal
      rw [hbody, TypedValue.of_toString clock (some name) hlimit] at hvalue
      obtain rfl := Except.ok.inj hvalue
      exact htyped ▸ rfl
    · rw [withControl, if_neg hdecimal] at htype
      exact hdouble htype

theorem isFaithful_of_part (h : written.IsScanned source)
    (hkeyword : written.part.keyword clock = .ok keyword) : IsFaithful clock keyword := by
  have hpart : written.part.lead = written.lead := by rw [h.part_eq]
  rcases Part.keyword_cases hkeyword with ⟨hlead, rfl⟩ | ⟨hlead, value, -, rfl⟩ |
    ⟨name, comparison, value, hlead, hvalue, hlegal⟩
  · exact isFaithful_of_freeText h (hpart ▸ hlead) hkeyword
  · exact isFaithful_of_exact h (hpart ▸ hlead) hkeyword
  · exact isFaithful_of_column h (hpart ▸ hlead) hkeyword hvalue hlegal

/-- The text of a keyword is the body of its part, unless a correction has written it anew. -/
theorem text_of_part (h : written.IsScanned source)
    (hkeyword : written.part.keyword clock = .ok keyword) :
    keyword.quoted = written.mark.isSome ∧
      (keyword.text = String.ofList written.body ∨
        ∃ value : Int, keyword.text = toString value) := by
  have hpart : written.part.lead = written.lead := by rw [h.part_eq]
  rcases Part.keyword_cases hkeyword with ⟨-, rfl⟩ | ⟨-, value, -, rfl⟩ |
    ⟨name, comparison, value, hlead, -, hlegal⟩
  · exact ⟨Part.freeText_quoted _, .inl (Part.freeText_text _)⟩
  · exact ⟨rfl, .inl rfl⟩
  · rw [hpart] at hlead
    have hself := lower_columnName (hlead ▸ h.wellFormed.lead) (hlead ▸ h.lower)
    rcases legal_cases rfl hself hlegal with ⟨-, rfl⟩ | ⟨-, -, rfl⟩ | ⟨-, value, -, rfl⟩ |
      ⟨-, -, -, rfl⟩
    · exact ⟨rfl, .inl rfl⟩
    · exact ⟨rfl, .inl rfl⟩
    · exact ⟨rfl, .inr ⟨value, rfl⟩⟩
    · exact ⟨rfl, .inl rfl⟩

theorem isStable_of_part (h : written.IsScanned source)
    (hblank : ∀ c ∈ source, isBlank c = true → isSeparator c = true)
    (hkeyword : written.part.keyword clock = .ok keyword) : IsStable clock keyword where
  toIsFaithful := isFaithful_of_part h hkeyword
  solid hplain c hc := by
    obtain ⟨hquoted, htext | ⟨value, htext⟩⟩ := text_of_part h hkeyword
    · have hmark : written.mark = none := by simpa [hquoted] using hplain
      rw [htext, String.toList_ofList] at hc
      exact solid_of_isScanned h hblank hmark c hc
    · rw [htext] at hc
      exact Text.isBlank_of_isNameCharacter (Numeral.isNameCharacter_of_mem_toString hc)

theorem isLegal_of_part (h : written.IsScanned source)
    (hkeyword : written.part.keyword clock = .ok keyword) : keyword.IsLegal := by
  have hpart : written.part.lead = written.lead := by rw [h.part_eq]
  rcases Part.keyword_cases hkeyword with ⟨-, rfl⟩ | ⟨-, value, -, rfl⟩ |
    ⟨name, comparison, value, hlead, -, hlegal⟩
  · exact isLegal_of_column_eq_none (Part.freeText_column _)
  · exact isLegal_of_column_eq_none rfl
  · rw [hpart] at hlead
    exact isLegal_of_legal rfl
      (lower_columnName (hlead ▸ h.wellFormed.lead) (hlead ▸ h.lower)) hlegal

end Leads

/-! ### The defaults are stable -/

theorem isStable_first (clock : Clock) :
    IsStable clock { text := "1", column := some "first", type := .integer, integer := 1 } := by
  have hsmall : (1 : Int).natAbs < 10 ^ Numeral.digitLimit :=
    Numeral.lt_digitLimit_of_natAbs_lt (by decide)
  exact isStable_of_setting (show (Lead.column "first" .equal).isWellNamed = true from rfl) rfl
    (by decide) rfl hsmall rfl

theorem isStable_rows (clock : Clock) :
    IsStable clock { text := "-2", column := some "rows", type := .integer, integer := -2 } := by
  have hsmall : (-2 : Int).natAbs < 10 ^ Numeral.digitLimit :=
    Numeral.lt_digitLimit_of_natAbs_lt (by decide)
  exact isStable_of_setting (show (Lead.column "rows" .equal).isWellNamed = true from rfl) rfl
    (by decide) rfl hsmall rfl

theorem isStable_sort (clock : Clock) :
    IsStable clock { text := defaultSortField, column := some "sort", type := .string } := by
  have hbody : ∀ c ∈ defaultSortField.toList, isNameCharacter c = true :=
    List.all_eq_true.1 (by decide)
  have hvalue : TypedValue.of clock (some "sort") defaultSortField = .ok .string := rfl
  refine ⟨⟨⟨?_, rfl, by simp⟩, fun _ c hc => Text.isBlank_of_isNameCharacter (hbody c hc)⟩, ?_⟩
  · exact WrittenPart.isWellFormed_of_isNameCharacter (by simp [writtenPart, lead]) rfl
      (by simp [writtenPart]) hbody
  · exact (keyword_column hvalue).trans
      (legal_of_not_integer rfl (by decide) (by decide) (by decide))

end Keyword

end ListingFilter
