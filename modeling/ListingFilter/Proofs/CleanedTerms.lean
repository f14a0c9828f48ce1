import ListingFilter.Proofs.Rereading
import ListingFilter.Proofs.Splitting
/-!
# Cleaned terms

A cleaned term is written from keywords that are stable, with single spaces between them. It is a
term by the grammar, nothing is trimmed from its ends, no setting in it is repeated and no default
is missing. So it is split into the keywords that it was written from; only the number of rows is
now the one that was written out.
-/

namespace ListingFilter

open Text (isBlank)

/-! ### Parts with single spaces between them -/

/-- The parts with a single space in front of each but the first. -/
def spaced : List WrittenPart → List (List Char × WrittenPart)
  | [] => []
  | part :: rest => ([], part) :: rest.map fun part => ([' '], part)

theorem map_part_spaced (parts : List WrittenPart) :
    ((spaced parts).map fun piece => piece.2.part) = parts.map WrittenPart.part := by
  cases parts <;> simp [spaced, Function.comp_def]

theorem isWriting_spaced {parts : List WrittenPart} (h : ∀ part ∈ parts, part.IsWellFormed) :
    IsWriting (spaced parts) [] := by
  cases parts with
  | nil => exact ⟨by simp [spaced], by simp [spaced], by simp [spaced], by simp⟩
  | cons part rest =>
    refine ⟨by simpa [spaced] using h, ?_, by simp [spaced], by simp⟩
    simp [spaced, isSeparator]

theorem intercalate_eq_writtenTerm (parts : List WrittenPart) :
    String.intercalate " " (parts.map fun part => String.ofList part.text) =
      String.ofList (writtenTerm (spaced parts) []) := by
  -- only the first part has no space in front of it, so the induction is on the others
  have hrest : ∀ (rest : List WrittenPart) (front : String),
      String.intercalate " " (front :: rest.map fun part => String.ofList part.text) =
        front ++ String.ofList (writtenTerm (rest.map fun part => ([' '], part)) []) := by
    intro rest
    induction rest with
    | nil => simp [writtenTerm]
    | cons part rest ih =>
      intro front
      rw [List.map_cons, String.intercalate_cons_cons, ih]
      apply String.toList_injective
      simp [writtenTerm]
  cases parts with
  | nil => rfl
  | cons part rest =>
    rw [List.map_cons, hrest]
    apply String.toList_injective
    simp [spaced, writtenTerm]

/-- The characters do not begin or end with a blank. -/
structure HasSolidEnds (cs : List Char) : Prop where
  nonempty : cs ≠ []
  head : ∀ c ∈ cs.head?, isBlank c = false
  last : ∀ c ∈ cs.getLast?, isBlank c = false

theorem hasSolidEnds_of_solid {cs : List Char} (hne : cs ≠ [])
    (h : ∀ c ∈ cs, isBlank c = false) : HasSolidEnds cs :=
  ⟨hne, fun c hc => h c (List.mem_of_mem_head? hc), fun c hc => h c (List.mem_of_mem_getLast? hc)⟩

/-- Blanks between two texts do not matter to the ends. -/
theorem HasSolidEnds.append {front back : List Char} (hfront : HasSolidEnds front)
    (hback : HasSolidEnds back) (gap : List Char) : HasSolidEnds (front ++ gap ++ back) where
  nonempty := by simp [hfront.nonempty]
  head := by
    obtain ⟨c, rest, rfl⟩ := List.exists_cons_of_ne_nil hfront.nonempty
    simpa using hfront.head
  last := by
    rw [List.getLast?_append_of_ne_nil _ hback.nonempty]
    exact hback.last

theorem writtenTerm_append (front back : List (List Char × WrittenPart)) :
    writtenTerm (front ++ back) [] = writtenTerm front [] ++ writtenTerm back [] := by
  induction front with
  | nil => rfl
  | cons piece front ih =>
    obtain ⟨gap, part⟩ := piece
    simp [writtenTerm, ih]

/-- The ends of a term are those of its first and its last part. -/
theorem ends_writtenTerm_spaced {parts : List WrittenPart}
    (hne : ∀ part ∈ parts, part.text ≠ []) :
    (writtenTerm (spaced parts) []).head? = parts.head?.bind (·.text.head?) ∧
      (writtenTerm (spaced parts) []).getLast? = parts.getLast?.bind (·.text.getLast?) := by
  constructor
  · cases parts with
    | nil => rfl
    | cons part rest =>
      obtain ⟨c, cs, hcs⟩ := List.exists_cons_of_ne_nil (hne part List.mem_cons_self)
      simp [spaced, writtenTerm, hcs]
  · rcases List.eq_nil_or_concat parts with rfl | ⟨front, last, rfl⟩
    · rfl
    · have hlast := List.getLast?_eq_getLast_of_ne_nil (hne last (by simp))
      have hsplit : ∃ before gap, spaced (front ++ [last]) = before ++ [(gap, last)] := by
        cases front with
        | nil => exact ⟨[], [], rfl⟩
        | cons part rest => exact ⟨spaced (part :: rest), [' '], by simp [spaced]⟩
      obtain ⟨before, gap, hbefore⟩ := hsplit
      rw [List.concat_eq_append, hbefore, writtenTerm_append, List.getLast?_append]
      simp [writtenTerm, hlast]

/-- Nothing is trimmed if the first part does not begin with a blank and the last does not end with
one. -/
theorem trim_writtenTerm {parts : List WrittenPart} (hne : ∀ part ∈ parts, part.text ≠ [])
    (hfirst : ∀ part ∈ parts.head?, ∀ c ∈ part.text.head?, isBlank c = false)
    (hlast : ∀ part ∈ parts.getLast?, ∀ c ∈ part.text.getLast?, isBlank c = false) :
    Text.trim (String.ofList (writtenTerm (spaced parts) [])) =
      String.ofList (writtenTerm (spaced parts) []) := by
  obtain ⟨hhead, hend⟩ := ends_writtenTerm_spaced hne
  refine Text.trim_eq_self ?_ ?_
  · intro c hc
    rw [String.toList_ofList, hhead] at hc
    obtain ⟨part, hpart, hc⟩ := Option.mem_bind_iff.1 hc
    exact hfirst part hpart c hc
  · intro c hc
    rw [String.toList_ofList, hend] at hc
    obtain ⟨part, hpart, hc⟩ := Option.mem_bind_iff.1 hc
    exact hlast part hpart c hc

/-! ### Keywords that are written -/

theorem Lead.isBlank_of_mem_text {lead : Lead} (h : lead.isWellNamed = true) {c : Char}
    (hc : c ∈ lead.text) : isBlank c = false := by
  cases lead with
  | bare => cases hc
  | exact =>
    obtain rfl := List.mem_singleton.1 hc
    decide
  | approx =>
    obtain rfl := List.mem_singleton.1 hc
    decide
  | column name comparison =>
    rcases List.mem_append.1 hc with hc | hc
    · exact Text.isBlank_of_isNameCharacter (isNameCharacter_of_isColumnName h c hc)
    · obtain rfl := List.mem_singleton.1 hc
      cases comparison <;> decide

namespace Keyword

/-- A keyword that can be written has a text with solid ends: quotation marks, a lead or a body
without blanks. -/
theorem IsWritable.hasSolidEnds {keyword : Keyword} (h : keyword.IsWritable) :
    HasSolidEnds keyword.writtenPart.text := by
  have hlead : ∀ c ∈ keyword.lead.text, isBlank c = false :=
    fun c hc => Lead.isBlank_of_mem_text h.wellFormed.lead hc
  cases hquoted : keyword.quoted with
  | true =>
    have htext : keyword.writtenPart.text =
        keyword.lead.text ++ mark keyword.text :: keyword.text.toList ++ [mark keyword.text] := by
      simp [writtenPart, WrittenPart.text, hquoted]
    have hmark : HasSolidEnds [mark keyword.text] :=
      hasSolidEnds_of_solid (by simp) fun c hc => by
        rw [List.mem_singleton.1 hc]
        exact Text.isBlank_of_isQuoteMark (isQuoteMark_mark _)
    have hopen : HasSolidEnds (keyword.lead.text ++ [mark keyword.text]) := by
      refine hasSolidEnds_of_solid (by simp) fun c hc => ?_
      rcases List.mem_append.1 hc with hc | hc
      · exact hlead c hc
      · exact hmark.head c (by simpa using (List.mem_singleton.1 hc).symm)
    have hends := hopen.append hmark keyword.text.toList
    rw [htext]
    simpa using hends
  | false =>
    have htext : keyword.writtenPart.text = keyword.lead.text ++ keyword.text.toList := by
      simp [writtenPart, WrittenPart.text, hquoted]
    rw [htext]
    refine hasSolidEnds_of_solid ?_ fun c hc => ?_
    · by_cases hbare : keyword.lead = .bare
      · have hbody := (h.wellFormed.bare (by simp [writtenPart, hquoted]) hbare).1
        simp [show keyword.text.toList ≠ [] from hbody]
      · cases hlead : keyword.lead with
        | bare => exact absurd hlead hbare
        | exact | approx | column name comparison => simp [Lead.text]
    · rcases List.mem_append.1 hc with hc | hc
      · exact hlead c hc
      · exact h.solid hquoted c hc

section Rows

variable {clock : Clock} {settings : Settings} {ignoreCap : Bool} {keyword : Keyword}

/-- The keyword as it stands in a cleaned term, where the number of rows is written out. -/
def stored (settings : Settings) (ignoreCap : Bool) (keyword : Keyword) : Keyword :=
  if keyword.column = some "rows" then setting "rows" (keyword.writtenRows settings ignoreCap) false
  else keyword

/-- The keyword as it is read in a cleaned term. -/
def cleaned (settings : Settings) (ignoreCap : Bool) (keyword : Keyword) : Keyword :=
  if keyword.column = some "rows" then
    setting "rows" (legalValue "rows" (keyword.writtenRows settings ignoreCap)) false
  else keyword.reread

theorem isWellNamed_rows : (Lead.column "rows" .equal).isWellNamed = true := rfl

theorem lower_rows : (Lead.column "rows" .equal).lower = .column "rows" .equal := rfl

/-- What is written is the text of the part, and a number of rows keeps to the limit of digits. -/
theorem written_eq_ok_iff (hlegible : keyword.IsLegible) (hlegal : keyword.IsLegal)
    {text : String} :
    keyword.written settings ignoreCap = .ok text ↔
      text = String.ofList (keyword.stored settings ignoreCap).writtenPart.text ∧
        (keyword.column = some "rows" →
          (keyword.writtenRows settings ignoreCap).natAbs < 10 ^ Numeral.digitLimit) := by
  by_cases hrows : keyword.column = some "rows"
  · have hrelation : keyword.relation = .none := (hlegal "rows" (by decide) hrows).1
    have hlead : keyword.writtenLead ++ toString (keyword.writtenRows settings ignoreCap) =
        String.ofList (keyword.stored settings ignoreCap).writtenPart.text := by
      rw [stored, if_pos hrows, ← writtenLead_append_writtenBody (by simp [setting])]
      simp [writtenLead, writtenBody, setting, hrows, hrelation]
    simp only [written, hrows, if_true, Numeral.write?_eq, ← hlead, forall_const]
    split_ifs with hlimit <;> simp [hlimit, eq_comm]
  · rw [stored, if_neg hrows, ← writtenLead_append_writtenBody hlegible.relation]
    simp [written, hrows, eq_comm]

theorem isLegible_stored (h : keyword.IsLegible) :
    (keyword.stored settings ignoreCap).IsLegible := by
  by_cases hrows : keyword.column = some "rows"
  · rw [stored, if_pos hrows]
    exact (isWritable_of_setting isWellNamed_rows lower_rows rfl).toIsLegible
  · rwa [stored, if_neg hrows]

theorem isWritable_stored (h : keyword.IsWritable) :
    (keyword.stored settings ignoreCap).IsWritable := by
  by_cases hrows : keyword.column = some "rows"
  · rw [stored, if_pos hrows]
    exact isWritable_of_setting isWellNamed_rows lower_rows rfl
  · rwa [stored, if_neg hrows]

/-- What is written in a cleaned term is read as the cleaned keyword. -/
theorem keyword_stored (hfaithful : keyword.IsFaithful clock)
    (hlimit : keyword.column = some "rows" →
      (keyword.writtenRows settings ignoreCap).natAbs < 10 ^ Numeral.digitLimit) :
    (keyword.stored settings ignoreCap).writtenPart.part.keyword clock =
      .ok (keyword.cleaned settings ignoreCap) := by
  by_cases hrows : keyword.column = some "rows"
  · rw [stored, cleaned, if_pos hrows, if_pos hrows, part_of_setting lower_rows rfl]
    exact keyword_toString (lower_columnName isWellNamed_rows lower_rows) (by decide) (hlimit hrows)
      .equal false
  · rw [stored, cleaned, if_neg hrows, if_neg hrows]
    exact hfaithful.reread

theorem column_cleaned : (keyword.cleaned settings ignoreCap).column = keyword.column := by
  by_cases hrows : keyword.column = some "rows"
  · rw [cleaned, if_pos hrows, hrows, setting]
  · rw [cleaned, if_neg hrows, Keyword.reread]

end Rows

end Keyword

/-! ### Splitting a cleaned term -/

section Terms

variable {clock : Clock} {settings : Settings} {ignoreCap : Bool} {remove : Option String}
  {term : String} {keywords : List Keyword}

/-- A keyword of a term is read from a part that can be found in the term, or it is a default. -/
theorem origin_of_mem_split (h : split clock term settings.defaultSort = .ok keywords)
    {keyword : Keyword} (hmem : keyword ∈ keywords) :
    (∃ written : WrittenPart, written.IsScanned term.toList ∧
      written.part.keyword clock = .ok keyword) ∨
    (keyword.IsStable clock ∧ keyword.IsLegal) := by
  rcases part_or_default_of_split h hmem with ⟨part, hpart, hkeyword⟩ | ⟨others, hdefault⟩
  · obtain ⟨written, hscanned, rfl⟩ := Part.ofTerm_finds hpart
    exact .inl ⟨written, hscanned, hkeyword⟩
  · refine .inr ?_
    rcases mem_defaultKeywords hdefault with ⟨rfl, -⟩ | ⟨rfl, -⟩ | ⟨field, hfield, rfl⟩
    · exact ⟨Keyword.isStable_first clock, by decide⟩
    · exact ⟨Keyword.isStable_rows clock, by decide⟩
    · obtain rfl : defaultSortField = field := by
        rw [Settings.defaultSort] at hfield
        split_ifs at hfield
        · cases hfield
        · exact Option.some.inj hfield
      exact ⟨Keyword.isStable_sort clock, by decide⟩

/-- All keywords of a term are faithful and legal, the defaults included. -/
theorem isFaithful_of_mem_split (h : split clock term settings.defaultSort = .ok keywords) :
    ∀ keyword ∈ keywords, keyword.IsFaithful clock ∧ keyword.IsLegal := by
  intro keyword hmem
  rcases origin_of_mem_split h hmem with ⟨written, hscanned, hkeyword⟩ | ⟨hstable, hlegal⟩
  · exact ⟨Keyword.isFaithful_of_part hscanned hkeyword,
      Keyword.isLegal_of_part hscanned hkeyword⟩
  · exact ⟨hstable.toIsFaithful, hlegal⟩

/-- They are stable if all blanks of the term separate its parts. -/
theorem isStable_of_mem_split
    (hblank : ∀ c ∈ term.toList, isBlank c = true → isSeparator c = true)
    (h : split clock term settings.defaultSort = .ok keywords) :
    ∀ keyword ∈ keywords, keyword.IsStable clock ∧ keyword.IsLegal := by
  intro keyword hmem
  rcases origin_of_mem_split h hmem with ⟨written, hscanned, hkeyword⟩ | hstable
  · exact ⟨Keyword.isStable_of_part hscanned hblank hkeyword,
      Keyword.isLegal_of_part hscanned hkeyword⟩
  · exact hstable

/-- Settled keywords that leave nothing open are read again from what is written of them. -/
theorem split_stored {defaultSort : Option String} (hsettled : IsSettled keywords)
    (hdefaults : defaultKeywords defaultSort keywords = [])
    (hfaithful : ∀ keyword ∈ keywords, keyword.IsFaithful clock)
    (hlimit : ∀ keyword ∈ keywords, keyword.column = some "rows" →
      (keyword.writtenRows settings ignoreCap).natAbs < 10 ^ Numeral.digitLimit) :
    split clock (String.ofList (writtenTerm
      (spaced (keywords.map fun keyword => (keyword.stored settings ignoreCap).writtenPart)) []))
      defaultSort = .ok (keywords.map (Keyword.cleaned settings ignoreCap)) := by
  rw [split_eq_ok_iff]
  refine ⟨keywords.map (Keyword.cleaned settings ignoreCap), ?_, ?_⟩
  · rw [Part.ofTerm_writtenTerm (isWriting_spaced ?_), map_part_spaced, List.map_map,
      mapM_eq_ok_iff, List.forall₂_map_left_iff, List.forall₂_map_right_iff, List.forall₂_same]
    · intro keyword hmem
      exact Keyword.keyword_stored (hfaithful keyword hmem) (hlimit keyword hmem)
    · intro part hpart
      obtain ⟨keyword, hmem, rfl⟩ := List.mem_map.1 hpart
      exact (Keyword.isLegible_stored (hfaithful keyword hmem).toIsLegible).wellFormed
  · have hoption : ∀ keyword : Keyword,
        (keyword.cleaned settings ignoreCap).option? = keyword.option? := by
      intro keyword
      rw [Keyword.option?, Keyword.column_cleaned, Keyword.option?]
    have hcolumns : ∀ column,
        setsColumn (keywords.map (Keyword.cleaned settings ignoreCap)) column =
          setsColumn keywords column := by
      intro column
      simp [setsColumn, Function.comp_def, Keyword.column_cleaned]
    have hkept : IsSettled (keywords.map (Keyword.cleaned settings ignoreCap)) := by
      refine List.pairwise_map.2 (hsettled.imp fun hapart => ?_)
      rwa [hoption, hoption]
    rw [dropRepeats_eq_self hkept (by simp),
      defaultKeywords_congr (fun column _ => hcolumns column), hdefaults, List.append_nil]

theorem filter_isRemoved_none (keywords : List Keyword) :
    (keywords.filter fun keyword => !isRemoved none keyword) = keywords :=
  List.filter_eq_self.2 fun _ _ => rfl

/-- A keyword on a default column stays if that column is not the one to be removed. -/
theorem isRemoved_eq_false {column : String} {keyword : Keyword}
    (hremove : ∀ column ∈ remove, Text.lower column ∉ defaultColumns)
    (hcolumn : keyword.column = some column) (hdefault : column ∈ defaultColumns) :
    isRemoved remove keyword = false := by
  have hlower : ∀ column ∈ defaultColumns, Text.lower column = column := by decide
  have hplain : ∀ column ∈ defaultColumns, column.toList.head? ≠ some '_' := by decide
  cases remove with
  | none => rfl
  | some name =>
    have hne : column ≠ Text.lower name := fun heq => hremove name rfl (heq ▸ hdefault)
    -- a private name starts with an underscore, which no default column does
    have hprivate : column ≠ "_" ++ Text.lower name := by
      rintro rfl
      exact hplain _ hdefault (by simp)
    simp [isRemoved, Keyword.columnIs, hcolumn, hlower column hdefault, hne, hprivate]

/-- What remains leaves no default open. -/
theorem defaultKeywords_filter
    (hremove : ∀ column ∈ remove, Text.lower column ∉ defaultColumns)
    (defaultSort : Option String) :
    defaultKeywords defaultSort (keywords.filter fun keyword => !isRemoved remove keyword) =
      defaultKeywords defaultSort keywords := by
  refine defaultKeywords_congr (fun column hdefault => ?_) defaultSort
  rw [setsColumn, setsColumn, List.any_filter]
  congr 1
  funext keyword
  by_cases hcolumn : keyword.column = some column
  · simp [isRemoved_eq_false hremove hcolumn hdefault]
  · simp [hcolumn]

/-- The text of the keywords, before anything is trimmed from its ends. -/
def storedTerm (settings : Settings) (ignoreCap : Bool) (keywords : List Keyword) : String :=
  String.ofList (writtenTerm
    (spaced (keywords.map fun keyword => (keyword.stored settings ignoreCap).writtenPart)) [])

/-- The pieces of a cleaned term are the texts of the parts that the keywords are written as. -/
theorem mapM_written_eq_ok_iff {pieces : List String}
    (hlegible : ∀ keyword ∈ keywords, keyword.IsLegible ∧ keyword.IsLegal) :
    keywords.mapM (Keyword.written settings ignoreCap) = .ok pieces ↔
      (pieces = keywords.map fun keyword =>
        String.ofList (keyword.stored settings ignoreCap).writtenPart.text) ∧
      ∀ keyword ∈ keywords, keyword.column = some "rows" →
        (keyword.writtenRows settings ignoreCap).natAbs < 10 ^ Numeral.digitLimit := by
  rw [mapM_eq_ok_iff]
  induction keywords generalizing pieces with
  | nil => simp
  | cons keyword keywords ih =>
    obtain ⟨hhere, hlegal⟩ := hlegible keyword List.mem_cons_self
    simp only [List.forall₂_cons_left_iff, Keyword.written_eq_ok_iff hhere hlegal,
      ih fun other hother => hlegible other (List.mem_cons_of_mem keyword hother)]
    constructor
    · rintro ⟨piece, pieces, ⟨rfl, hlimit⟩, ⟨rfl, hlimits⟩, rfl⟩
      exact ⟨rfl, List.forall_mem_cons.2 ⟨hlimit, hlimits⟩⟩
    · rintro ⟨rfl, hlimits⟩
      obtain ⟨hlimit, hlimits⟩ := List.forall_mem_cons.1 hlimits
      exact ⟨_, _, ⟨rfl, hlimit⟩, ⟨rfl, hlimits⟩, rfl⟩

/-- A cleaned term is the text of the keywords that remain, trimmed, and the number of rows in it
keeps to the limit of digits. -/
theorem clean_eq_ok_iff {cleaned : String}
    (hsplit : split clock term settings.defaultSort = .ok keywords) :
    clean clock settings ignoreCap remove (some term) = .ok cleaned ↔
      cleaned = Text.trim (storedTerm settings ignoreCap
        (keywords.filter fun keyword => !isRemoved remove keyword)) ∧
      ∀ keyword ∈ keywords.filter fun keyword => !isRemoved remove keyword,
        keyword.column = some "rows" →
          (keyword.writtenRows settings ignoreCap).natAbs < 10 ^ Numeral.digitLimit := by
  have hlegible : ∀ keyword ∈ keywords.filter fun keyword => !isRemoved remove keyword,
      keyword.IsLegible ∧ keyword.IsLegal := by
    intro keyword hmem
    obtain ⟨hfaithful, hlegal⟩ :=
      isFaithful_of_mem_split hsplit keyword (List.mem_of_mem_filter hmem)
    exact ⟨hfaithful.toIsLegible, hlegal⟩
  have htext : ∀ kept : List Keyword,
      String.intercalate " " (kept.map fun keyword =>
        String.ofList (keyword.stored settings ignoreCap).writtenPart.text) =
      storedTerm settings ignoreCap kept := by
    intro kept
    rw [storedTerm, ← intercalate_eq_writtenTerm, List.map_map, Function.comp_def]
  simp only [clean, hsplit, writeTerm, map_eq_ok_iff, mapM_written_eq_ok_iff hlegible]
  constructor
  · rintro ⟨pieces, ⟨rfl, hlimits⟩, rfl⟩
    exact ⟨by rw [htext], hlimits⟩
  · rintro ⟨rfl, hlimits⟩
    exact ⟨_, ⟨rfl, hlimits⟩, by rw [htext]⟩

/-- The keywords that remain are read again from their text, whatever the default order is. -/
theorem split_storedTerm (hremove : ∀ column ∈ remove, Text.lower column ∉ defaultColumns)
    (hsplit : split clock term settings.defaultSort = .ok keywords)
    (hlimit : ∀ keyword ∈ keywords.filter fun keyword => !isRemoved remove keyword,
      keyword.column = some "rows" →
        (keyword.writtenRows settings ignoreCap).natAbs < 10 ^ Numeral.digitLimit)
    {defaultSort : Option String} (hopen : defaultKeywords defaultSort keywords = []) :
    split clock (storedTerm settings ignoreCap
        (keywords.filter fun keyword => !isRemoved remove keyword)) defaultSort =
      .ok ((keywords.filter fun keyword => !isRemoved remove keyword).map
        (Keyword.cleaned settings ignoreCap)) := by
  refine split_stored ((isSettled_of_split hsplit).1.filter _) ?_ ?_ hlimit
  · rw [defaultKeywords_filter hremove, hopen]
  · exact fun keyword hmem =>
      (isFaithful_of_mem_split hsplit keyword (List.mem_of_mem_filter hmem)).1

/-- Nothing is trimmed if all blanks of the term separate its parts. -/
theorem trim_storedTerm (hblank : ∀ c ∈ term.toList, isBlank c = true → isSeparator c = true)
    (hsplit : split clock term settings.defaultSort = .ok keywords) :
    Text.trim (storedTerm settings ignoreCap
        (keywords.filter fun keyword => !isRemoved remove keyword)) =
      storedTerm settings ignoreCap
        (keywords.filter fun keyword => !isRemoved remove keyword) := by
  have hsolid : ∀ part ∈ (keywords.filter fun keyword => !isRemoved remove keyword).map
      (fun keyword => (keyword.stored settings ignoreCap).writtenPart),
      HasSolidEnds part.text := by
    intro part hpart
    obtain ⟨keyword, hmem, rfl⟩ := List.mem_map.1 hpart
    have hstable := (isStable_of_mem_split hblank hsplit keyword (List.mem_of_mem_filter hmem)).1
    exact (Keyword.isWritable_stored hstable.toIsWritable).hasSolidEnds
  exact trim_writtenTerm (fun part hpart => (hsolid part hpart).nonempty)
    (fun part hpart => (hsolid part (List.mem_of_mem_head? hpart)).head)
    (fun part hpart => (hsolid part (List.mem_of_mem_getLast? hpart)).last)

/-- A cleaned term is split into the keywords that it was written from. -/
theorem split_clean_eq {cleaned : String}
    (hblank : ∀ c ∈ term.toList, isBlank c = true → isSeparator c = true)
    (hremove : ∀ column ∈ remove, Text.lower column ∉ defaultColumns)
    (hsplit : split clock term settings.defaultSort = .ok keywords)
    (hclean : clean clock settings ignoreCap remove (some term) = .ok cleaned) :
    split clock cleaned settings.defaultSort =
      .ok ((keywords.filter fun keyword => !isRemoved remove keyword).map
        (Keyword.cleaned settings ignoreCap)) := by
  obtain ⟨rfl, hlimit⟩ := (clean_eq_ok_iff hsplit).1 hclean
  rw [trim_storedTerm hblank hsplit]
  exact split_storedTerm hremove hsplit hlimit (isSettled_of_split hsplit).2

/-! ### What cleaning keeps -/

/-- A legal number of rows is written as a legal one if the settings are those of an installation
that shows rows. -/
theorem correction?_writtenRows {keyword : Keyword} (hlegal : keyword.IsLegal)
    (hcolumn : keyword.column = some "rows") (hrows : 1 ≤ settings.rowsPerPage)
    (hcap : 0 ≤ settings.maxRowsPerPage) :
    Keyword.correction? "rows" (keyword.writtenRows settings ignoreCap) = none := by
  have hkeyword :=
    (Keyword.correction?_rows_eq_none_iff _).1 (hlegal "rows" (by decide) hcolumn).2
  rw [Keyword.correction?_rows_eq_none_iff]
  simp only [Keyword.writtenRows, capRows]
  split_ifs <;> simp_all <;> omega

/-- The keyword `after`, read in a cleaned term, stands for `before`. All but the number of rows
stays as it is. The double of an integer keyword says nothing, and is compared only if it is zero.
The number of rows is the legal one for what was written. -/
structure Keyword.IsKeptAs (settings : Settings) (ignoreCap : Bool) (before after : Keyword) :
    Prop where
  fields : before.column ≠ some "rows" → after = { before with double := after.double }
  double : before.column ≠ some "rows" → (before.type = .integer → before.double = .zero) →
    after.double = before.double
  rows : before.column = some "rows" →
    after = setting "rows" (legalValue "rows" (before.writtenRows settings ignoreCap)) false
  configured : before.column = some "rows" → 1 ≤ settings.rowsPerPage →
    0 ≤ settings.maxRowsPerPage → after.text = toString (before.writtenRows settings ignoreCap)

theorem Keyword.isKeptAs_cleaned {keyword : Keyword} (hlegal : keyword.IsLegal) :
    keyword.IsKeptAs settings ignoreCap (keyword.cleaned settings ignoreCap) where
  fields hne := by rw [cleaned, if_neg hne, Keyword.reread]
  double hne hzero := by rw [cleaned, if_neg hne, reread_eq_self hzero]
  rows heq := by rw [cleaned, if_pos heq]
  configured heq hrows hcap := by
    rw [cleaned, if_pos heq, legalValue_of_none (correction?_writtenRows hlegal heq hrows hcap),
      setting]

/-- Cleaning keeps the keywords of a term in their order, but for those on the removed column: a
cleaned term is split again, into keywords that stand for the ones that remain. -/
theorem split_clean {cleaned : String}
    (hblank : ∀ c ∈ term.toList, isBlank c = true → isSeparator c = true)
    (hremove : ∀ column ∈ remove, Text.lower column ∉ defaultColumns)
    (hsplit : split clock term settings.defaultSort = .ok keywords)
    (hclean : clean clock settings ignoreCap remove (some term) = .ok cleaned) :
    ∃ kept, split clock cleaned settings.defaultSort = .ok kept ∧
      List.Forall₂ (Keyword.IsKeptAs settings ignoreCap)
        (keywords.filter fun keyword => !isRemoved remove keyword) kept := by
  refine ⟨_, split_clean_eq hblank hremove hsplit hclean, ?_⟩
  rw [List.forall₂_map_right_iff, List.forall₂_same]
  intro keyword hmem
  exact Keyword.isKeptAs_cleaned
    (isStable_of_mem_split hblank hsplit keyword (List.mem_of_mem_filter hmem)).2

end Terms

/-- A column is removed, a quoted value stays, and a control is put right and stays so. -/
theorem split_clean_without_name :
    ∃ kept, split (.whole 0) "task=\"it's\" first=1 rows=10 sort=name" (some "name") = .ok kept ∧
      List.Forall₂ (Keyword.IsKeptAs {} false)
        [{ text := "it's", column := some "task", relation := .column .equal, type := .string,
           quoted := true },
          { text := "1", column := some "first", type := .integer, integer := 1 },
          { text := "-2", column := some "rows", type := .integer, integer := -2 },
          { text := "name", column := some "sort", type := .string }] kept := by
  have hsplit : split (.whole 0) "Name~x\ttask=\"it's\" first=0" (Settings.defaultSort {}) = .ok
      [{ text := "x", column := some "name", relation := .column .approx, type := .string },
        { text := "it's", column := some "task", relation := .column .equal, type := .string,
          quoted := true },
        { text := "1", column := some "first", type := .integer, integer := 1 },
        { text := "-2", column := some "rows", type := .integer, integer := -2 },
        { text := "name", column := some "sort", type := .string }] :=
    eq_ok_of_toOption (by decide +kernel)
  have hclean : clean (.whole 0) {} false (some "name")
      (some "Name~x\ttask=\"it's\" first=0") = .ok "task=\"it's\" first=1 rows=10 sort=name" :=
    eq_ok_of_toOption (by decide +kernel)
  have hblank : ("Name~x\ttask=\"it's\" first=0".toList.all fun c => !isBlank c || isSeparator c) =
      true := by decide +kernel
  have hkept := split_clean
    (fun c hc hb => by simpa [hb] using List.all_eq_true.1 hblank c hc) (by decide) hsplit hclean
  rwa [List.filter_cons_of_neg (by decide), List.filter_eq_self.2 (by decide)] at hkept

/-- Cleaning does not keep everything: the double of a fraction that was put right is lost, and a
page without rows is read as a page with one. -/
theorem split_clean_first_fraction :
    ∃ keywords kept, split (.whole 0) "first=-1.5" (some "name") = .ok keywords ∧
      clean (.whole 0) { rowsPerPage := 0, maxRowsPerPage := 0 } false none
        (some "first=-1.5") = .ok "first=1 rows=0 sort=name" ∧
      split (.whole 0) "first=1 rows=0 sort=name" (some "name") = .ok kept ∧
      kept.map (·.double) ≠ keywords.map (·.double) ∧ kept.map (·.text) ≠ ["1", "0", "name"] := by
  refine ⟨[{ text := "1", column := some "first", type := .integer, integer := 1,
              double := .ofRatio true 3 2 },
            { text := "-2", column := some "rows", type := .integer, integer := -2 },
            { text := "name", column := some "sort", type := .string }],
          [{ text := "1", column := some "first", type := .integer, integer := 1 },
            { text := "1", column := some "rows", type := .integer, integer := 1 },
            { text := "name", column := some "sort", type := .string }],
          eq_ok_of_toOption ?_, eq_ok_of_toOption ?_, eq_ok_of_toOption ?_, ?_, ?_⟩ <;>
    decide +kernel

end ListingFilter
