import Mathlib.Data.List.Find
import ListingFilter.Proofs.OptionValues
/-!
# Reading an option off a term

The least quality of detection and whether overrides apply are also read off a term by themselves:
by the text of the first keyword on the option, or on its private form with a leading underscore.
The keyword keeps the text of its part as long as what is asked is legal, so a reader of the text
sees what was written and not what was asked.

The quality that is read is legal for digits, whose text starts with what is asked. It may not be
for a moment early in 1970, which is asked as a small number of seconds and read as the year or the
shift that it is written with, nor on the private form, which nobody corrects. Whether overrides
apply is read as the report reads it, except where a 0 is spelled in another way.
-/

namespace ListingFilter

open Keyword (integerControls legalValue correction?)
open Text (isBlank isDigit)

/-! ### The integer at the start of a numeral -/

theorem Text.isBlank_of_isDigit {c : Char} (h : isDigit c = true) : isBlank c = false := by
  obtain ⟨first, hfirst, hrange⟩ :
      ∃ first ∈ Text.zeroCodes, first ≤ c.toNat ∧ c.toNat ≤ first + 9 := by
    rw [isDigit, Text.digitValue?, Option.isSome_map, List.find?_isSome] at h
    simpa using h
  have hapart : ∀ first ∈ Text.zeroCodes, ∀ range ∈ Text.blankRanges,
      first + 9 < range.1 ∨ range.2 < first := by
    decide +kernel
  refine List.any_eq_false.2 fun range hblank => ?_
  have := hapart first hfirst range hblank
  simp only [Bool.and_eq_true, decide_eq_true_eq]
  omega

namespace Numeral

theorem splitSign_append {cs : List Char} (h : cs ≠ []) (rest : List Char) :
    splitSign (cs ++ rest) = ((splitSign cs).1, (splitSign cs).2 ++ rest) := by
  obtain ⟨c, cs, rfl⟩ := List.exists_cons_of_ne_nil h
  by_cases hminus : c = '-'
  · subst hminus
    rfl
  by_cases hplus : c = '+'
  · subst hplus
    rfl
  simp [splitSign, hminus, hplus]

/-- A numeral starts with its sign or a digit. -/
theorem isBlank_head_of_read? {cs : List Char} {n : Int} (h : read? cs = some n) :
    ∃ c rest, cs = c :: rest ∧ isBlank c = false := by
  obtain ⟨hnonempty, hdigits, -⟩ := read?_eq_some h
  rcases splitSign_cases cs with hnone | ⟨c, rest, hcs, hsign, -⟩
  · rw [hnone] at hnonempty hdigits
    obtain ⟨c, rest, rfl⟩ := List.exists_cons_of_ne_nil hnonempty
    exact ⟨c, rest, rfl, Text.isBlank_of_isDigit (hdigits c List.mem_cons_self)⟩
  · refine ⟨c, rest, hcs, ?_⟩
    rcases hsign with rfl | rfl <;> exact Text.isBlank_eq_false (by decide) (by decide)

end Numeral

/-- The integer at the start of a numeral is the numeral, within the bounds. -/
theorem leadingInteger_of_read? {text : String} {n : Int}
    (h : Numeral.read? (TypedValue.dropLineEnd text.toList) = some n) :
    leadingInteger text = max leastLeading (min greatestLeading n) := by
  obtain ⟨rest, htext, hstop⟩ : ∃ rest,
      text.toList = TypedValue.dropLineEnd text.toList ++ rest ∧
        rest.takeWhile isDigit = [] := by
    rcases TypedValue.dropLineEnd_cases text.toList with hsame | hend
    · exact ⟨[], by rw [hsame, List.append_nil], rfl⟩
    · exact ⟨['\n'], hend, by decide +kernel⟩
  generalize TypedValue.dropLineEnd text.toList = cs at h htext
  obtain ⟨hnonempty, hdigits, hlength, hvalue⟩ := Numeral.read?_eq_some h
  obtain ⟨c, tail, hcs, hblank⟩ := Numeral.isBlank_head_of_read? h
  have hkeep : text.toList.dropWhile isBlank = cs ++ rest := by
    rw [htext, hcs, List.cons_append, List.dropWhile_cons_of_neg (by simp [hblank])]
  have hsplit := Numeral.splitSign_append (show cs ≠ [] by simp [hcs]) rest
  have htake : ((Numeral.splitSign cs).2 ++ rest).takeWhile isDigit = (Numeral.splitSign cs).2 := by
    rw [List.takeWhile_append_of_pos hdigits, hstop, List.append_nil]
  simp only [leadingInteger, hkeep, hsplit, htake, hvalue]
  rw [if_neg (by simpa using hnonempty), if_neg (not_lt.2 hlength)]

theorem leadingInteger_toString {n : Int} (h : IsMachineInteger n) :
    leadingInteger (toString n) = n := by
  have hread : Numeral.read? (TypedValue.dropLineEnd (toString n).toList) = some n := by
    rw [TypedValue.dropLineEnd_eq_self, Numeral.read?_toString h.natAbs_lt]
    rintro c hc rfl
    exact absurd (Numeral.isNameCharacter_of_mem_toString hc) (by decide)
  rw [leadingInteger_of_read? hread, min_eq_right h.2, max_eq_right h.1]

/-! ### The text on an option -/

/-- The column is the option or its private form. -/
def namesOption (option : String) (column : Option String) : Bool :=
  column == some option || column == some ("_" ++ option)

section Lookup

variable {clock : Clock} {term option : String} {defaultSort : Option String}
  {keywords : List Keyword}

/-- The case of letters makes no difference to a keyword of a term. -/
theorem Keyword.columnIs_eq {part : Part} {keyword : Keyword}
    (hlower : Text.lower option = option) (hpart : part ∈ Part.ofTerm term)
    (h : part.keyword clock = .ok keyword) :
    keyword.columnIs option = namesOption option keyword.column := by
  rw [Keyword.columnIs, Part.column?_of_keyword hpart h, hlower]
  cases hlead : part.lead with
  | column column comparison =>
    simp [namesOption, Part.column?, hlead, Part.lower_of_mem_ofTerm hpart hlead]
  | bare | exact | approx => simp [namesOption, Part.column?, hlead]

/-- The text that is found on an option is that of the keyword of the first part on it. -/
theorem termValue?_of_split (option : String) (hlower : Text.lower option = option)
    (hdefaults : ∀ default ∈ allDefaults (some defaultSortField), default.columnIs option = false)
    (h : split clock term defaultSort = .ok keywords) :
    ∃ written : Option Keyword,
      Option.Rel (fun part keyword => part.keyword clock = .ok keyword)
        ((Part.ofTerm term).find? (namesOption option ·.column?)) written ∧
      termValue? clock (some term) option = .ok (written.map (·.text)) := by
  obtain ⟨read, hread, -⟩ := split_eq_ok_iff.1 h
  refine ⟨_, find?_of_mapM (fun _ hmem => hmem) hread (namesOption option), ?_⟩
  have hwritten : (dropRepeats [] read).find? (·.columnIs option) =
      read.find? (namesOption option ·.column) := by
    have hkept : (dropRepeats [] read).find? (namesOption option ·.column) =
        read.find? (namesOption option ·.column) := find?_dropRepeats (by simp) read
    rw [← hkept]
    refine List.find?_congr fun keyword hmem => ?_
    obtain ⟨part, hpart, hkeyword⟩ :=
      exists_mem_of_mapM_eq_ok hread (mem_of_mem_dropRepeats hmem)
    exact Keyword.columnIs_eq hlower hpart hkeyword
  have hopen : (defaultKeywords (some defaultSortField) (dropRepeats [] read)).find?
      (·.columnIs option) = none := by
    rw [defaultKeywords_eq_filter, List.find?_eq_none]
    intro default hdefault
    simp [hdefaults default (List.mem_of_mem_filter hdefault)]
  have hsplit : split clock term (some defaultSortField) = .ok (dropRepeats [] read ++
      defaultKeywords (some defaultSortField) (dropRepeats [] read)) :=
    split_eq_ok_iff.2 ⟨read, hread, rfl⟩
  rw [termValue?, hsplit, ← hwritten]
  simp only [Except.map, List.find?_append, hopen, Option.or_none]

/-- A keyword that is on no control has the text of its part. -/
theorem Part.text_of_not_control {part : Part} {keyword : Keyword} {column : String}
    (hcolumn : part.column? = some column) (hlower : Text.lower column = column)
    (hcontrol : column ∉ controlColumns) (h : part.keyword clock = .ok keyword) :
    keyword.text = part.body := by
  rcases Part.keyword_cases h with ⟨-, rfl⟩ | ⟨-, value, -, rfl⟩ |
    ⟨other, comparison, value, hlead, -, hlegal⟩
  · exact Part.freeText_text part
  · rfl
  · obtain rfl : other = column := by simpa [Part.column?, hlead] using hcolumn
    rw [Keyword.legal_of_not_control rfl hlower hcontrol] at hlegal
    rw [← Except.ok.inj hlegal]
    rfl

end Lookup

/-! ### The quality of detection -/

/-- The integer is a quality of detection, in per cent. -/
def IsQuality (n : Int) : Prop := 0 ≤ n ∧ n ≤ 100

instance (n : Int) : Decidable (IsQuality n) := inferInstanceAs (Decidable (_ ∧ _))

/-- The part is a moment so early in 1970 that its seconds are a quality. -/
def Part.IsEarlyMoment (clock : Clock) (part : Part) : Prop :=
  ∃ moment, IsQuality moment ∧
    (TypedValue.relativeTime? clock part.body.toList = .ok (some moment) ∨
      TypedValue.dateTime? part.body.toList = .ok (some moment))

section Quality

variable {clock : Clock} {term : String} {defaultSort : Option String} {keywords : List Keyword}

/-- The default for an empty text is a quality, and so is the 0 at the start of it. -/
theorem isQuality_read_iff (text : String) :
    IsQuality (if text = "" then defaultMinQod else leadingInteger text) ↔
      IsQuality (leadingInteger text) := by
  split_ifs with hempty
  · subst hempty
    exact iff_of_true (by decide) (by decide +kernel)
  · rfl

/-- The text of a keyword on the quality starts with a quality, unless it is an early moment. -/
theorem isQuality_text_iff {part : Part} {keyword : Keyword}
    (hcolumn : part.column? = some "min_qod") (h : part.keyword clock = .ok keyword) :
    IsQuality (leadingInteger keyword.text) ↔
      IsQuality (leadingInteger part.body) ∨ ¬ part.IsEarlyMoment clock := by
  have hoption : "min_qod" ∈ integerControls := by decide
  obtain ⟨asked, hasked, hanswers⟩ := Part.exists_answers hcolumn hoption h
  cases hcorrection : correction? "min_qod" asked with
  | none =>
    have hquality := (Keyword.correction?_minQod_eq_none_iff asked).1 hcorrection
    rw [hanswers.text, if_pos hcorrection]
    -- what is asked is a quality; the text says the same unless it is a moment
    refine ⟨.inl, fun hor => hor.elim id fun hmoment => ?_⟩
    rcases Part.asked_cases hcolumn hoption hasked with hinteger | ⟨-, hleading⟩
    · cases hinteger with
      | digits hread =>
        rw [leadingInteger_of_read? hread]
        simp only [IsQuality, leastLeading, greatestLeading]
        omega
      | relative hrelative => exact absurd ⟨asked, hquality, .inl hrelative⟩ hmoment
      | date hdate => exact absurd ⟨asked, hquality, .inr hdate⟩ hmoment
    · exact hleading ▸ hquality
  | some corrected =>
    have hquality : IsQuality corrected :=
      (Keyword.correction?_minQod_eq_none_iff corrected).1
        (Keyword.correction?_correction hcorrection)
    have hmachine : IsMachineInteger corrected := by
      simp only [IsMachineInteger, IsQuality, leastLeading, greatestLeading] at hquality ⊢
      omega
    rw [hanswers.text, if_neg (by simp [hcorrection]), Keyword.legalValue_of_some hcorrection,
      leadingInteger_toString hmachine]
    -- the text was written anew, so no quality was asked for
    refine iff_of_true hquality (.inr ?_)
    rintro ⟨moment, hearly, hmoment⟩
    have hinteger : TypedValue.IsInteger clock part.body.toList moment :=
      hmoment.elim .relative .date
    have hsame := hasked.symm.trans (Part.asked_of_isInteger hcolumn hoption hinteger)
    obtain rfl := Except.ok.inj hsame
    rw [(Keyword.correction?_minQod_eq_none_iff asked).2 hearly] at hcorrection
    cases hcorrection

/-- The least quality of detection that is read off a term is a quality, unless the first part on
the option is on its private form or an early moment, and its text does not start with a quality. -/
theorem isQuality_termMinQod (h : split clock term defaultSort = .ok keywords) :
    ∃ quality, termMinQod clock (some term) = .ok quality ∧
      (IsQuality quality ↔ ∀ part ∈ (Part.ofTerm term).find? (namesOption "min_qod" ·.column?),
        IsQuality (leadingInteger part.body) ∨
          part.column? = some "min_qod" ∧ ¬ part.IsEarlyMoment clock) := by
  obtain ⟨written, hrel, hvalue⟩ :=
    termValue?_of_split "min_qod" (by decide +kernel) (by decide +kernel) h
  refine ⟨_, map_eq_ok_iff.2 ⟨_, hvalue, rfl⟩, ?_⟩
  cases hfound : (Part.ofTerm term).find? (namesOption "min_qod" ·.column?) with
  | none =>
    rw [hfound] at hrel
    cases hrel
    exact iff_of_true (by decide) (by simp)
  | some part =>
    rw [hfound] at hrel
    obtain ⟨hkeyword⟩ := hrel
    have hon := List.find?_some hfound
    simp only [namesOption, Bool.or_eq_true, beq_iff_eq] at hon
    simp only [Option.map_some, isQuality_read_iff, Option.mem_some_iff, forall_eq']
    rcases hon with hplain | hprivate
    · rw [isQuality_text_iff hplain hkeyword]
      simp [hplain]
    · rw [Part.text_of_not_control hprivate (by decide +kernel) (by decide) hkeyword]
      simp [hprivate]

end Quality

/-- Three days before the clock are less than any quality, and are corrected. -/
theorem isQuality_termMinQod_corrected :
    let clock : Clock := .whole 0
    let term := "name~a min_qod=-3d _min_qod=500"
    ∃ keywords quality, split clock term (some "name") = .ok keywords ∧
      termMinQod clock (some term) = .ok quality ∧ quality = 0 ∧
      (IsQuality quality ↔
        ∀ part ∈ (Part.ofTerm term).find? (namesOption "min_qod" ·.column?),
          IsQuality (leadingInteger part.body) ∨
            part.column? = some "min_qod" ∧ ¬ part.IsEarlyMoment clock) := by
  intro clock term
  have hreturns : ((split clock term (some "name")).map List.length).toOption = some 6 := by
    decide +kernel
  obtain ⟨keywords, hsplit, -⟩ := map_eq_ok_iff.1 (eq_ok_of_toOption hreturns)
  obtain ⟨quality, hquality, hiff⟩ := isQuality_termMinQod hsplit
  have hzero : termMinQod clock (some term) = .ok 0 := eq_ok_of_toOption (by decide +kernel)
  exact ⟨keywords, quality, hsplit, hquality, Except.ok.inj (hquality.symm.trans hzero), hiff⟩

/-- A minute after the beginning of 1970 is asked as 60 and read as 1970, and nobody corrects the
private form. -/
theorem isQuality_termMinQod_early :
    let clock : Clock := .whole 0
    (split clock "min_qod=1970-01-01T00:01" none).toOption.isSome = true ∧
      termMinQod clock (some "min_qod=1970-01-01T00:01") = .ok 1970 ∧
      (split clock "_min_qod=500" none).toOption.isSome = true ∧
      termMinQod clock (some "_min_qod=500") = .ok 500 ∧ ¬ IsQuality 1970 ∧ ¬ IsQuality 500 := by
  intro clock
  exact ⟨by decide +kernel, eq_ok_of_toOption (by decide +kernel), by decide +kernel,
    eq_ok_of_toOption (by decide +kernel), by decide, by decide⟩

/-! ### Overrides -/

/-- The part asks for 0 in another spelling than `0`. -/
def Part.SpellsZero (clock : Clock) (part : Part) : Prop :=
  part.asked clock = .ok 0 ∧ part.body ≠ "0"

section Overrides

variable {clock : Clock} {term : String} {defaultSort : Option String} {keywords : List Keyword}
  {part : Part} {keyword : Keyword}

/-- The integer of a keyword on the overrides is what its text says to a reader that knows one
spelling of 0, unless the part spells it in another way. -/
theorem integer_of_overrides (hcolumn : part.column? = some "apply_overrides")
    (h : part.keyword clock = .ok keyword) :
    (part.SpellsZero clock → keyword.text ≠ "0" ∧ keyword.integer = 0) ∧
      (¬ part.SpellsZero clock →
        keyword.integer = if keyword.text = "0" then 0 else 1) := by
  have hoption : "apply_overrides" ∈ integerControls := by decide
  have hswitch : "apply_overrides" ∈ switchColumns := by decide
  obtain ⟨asked, hasked, hanswers⟩ := Part.exists_answers hcolumn hoption h
  have hzero : part.body = "0" → asked = 0 := by
    intro hbody
    have hinteger : TypedValue.IsInteger clock part.body.toList 0 := by
      rw [hbody]
      exact .digits (by decide +kernel)
    exact Except.ok.inj (hasked.symm.trans (Part.asked_of_isInteger hcolumn hoption hinteger))
  have hspells : part.SpellsZero clock ↔ asked = 0 ∧ part.body ≠ "0" := by
    simp [Part.SpellsZero, hasked]
  rw [hspells, hanswers.text, hanswers.integer, Keyword.legalValue_switch hswitch]
  by_cases hasks : asked = 0
  · have hnone := (Keyword.correction?_switch_eq_none_iff hswitch asked).2 (.inl hasks)
    rw [if_pos hnone, if_pos hasks]
    by_cases hbody : part.body = "0" <;> simp [hasks, hbody]
  · have hbody : part.body ≠ "0" := fun hbody => hasks (hzero hbody)
    have hone : toString (1 : Int) ≠ "0" := by decide
    rw [if_neg hasks]
    have htext : (if correction? "apply_overrides" asked = none then part.body
        else toString (1 : Int)) ≠ "0" := by
      split_ifs
      · exact hbody
      · exact hone
    rw [if_neg htext]
    simp [hasks]

/-- Whether overrides apply is read off a term as the report of the term reads it, if the term sets
it and its private form is not on the term, unless the first part on it spells 0 in another way:
then the report applies no overrides, and the term does. -/
theorem appliesOverrides_agree (hset : "apply_overrides" ∈ writtenColumns term)
    (hprivate : "_apply_overrides" ∉ writtenColumns term)
    (h : split clock term defaultSort = .ok keywords) (settings : Settings) :
    ∃ part ∈ (Part.ofTerm term).find? (·.column? == some "apply_overrides"),
      ∃ applies report, termAppliesOverrides clock (some term) = .ok applies ∧
        reportControls clock settings (some term) = .ok report ∧
        (part.SpellsZero clock → applies = 1 ∧ report.applyOverrides = 0) ∧
        (¬ part.SpellsZero clock → applies = report.applyOverrides) := by
  obtain ⟨part, hfound⟩ : ∃ part,
      (Part.ofTerm term).find? (·.column? == some "apply_overrides") = some part := by
    obtain ⟨part, hmem, hcolumn⟩ := List.mem_filterMap.1 hset
    exact Option.isSome_iff_exists.1 (List.find?_isSome.2 ⟨part, hmem, by simp [hcolumn]⟩)
  have hcolumn : part.column? = some "apply_overrides" := by simpa using List.find?_some hfound
  have hnamed : (Part.ofTerm term).find? (namesOption "apply_overrides" ·.column?) =
      some part := by
    rw [← hfound]
    refine List.find?_congr fun other hmem => ?_
    have hother : other.column? ≠ some "_apply_overrides" := fun hcolumn =>
      hprivate (List.mem_filterMap.2 ⟨other, hmem, hcolumn⟩)
    simp [namesOption, hother]
  obtain ⟨written, hrel, hvalue⟩ :=
    termValue?_of_split "apply_overrides" (by decide +kernel) (by decide +kernel) h
  rw [hnamed] at hrel
  obtain ⟨keyword, hkeyword, rfl⟩ : ∃ keyword,
      part.keyword clock = .ok keyword ∧ written = some keyword := by
    cases hrel with
    | some hkeyword => exact ⟨_, hkeyword, rfl⟩
  obtain ⟨read, hread, -⟩ := split_eq_ok_iff.1 h
  obtain ⟨others, hsplit⟩ : ∃ others, split clock term none = .ok others :=
    ⟨_, split_eq_ok_iff.2 ⟨read, hread, rfl⟩⟩
  have hreport : (ReportControls.ofKeywords settings others).applyOverrides = keyword.integer := by
    obtain ⟨written, hrel, hwritten⟩ :=
      findColumn?_of_split hsplit (show "apply_overrides" ∈ singleUseColumns by decide)
    rw [hfound] at hrel
    obtain ⟨hsame⟩ := hrel
    obtain rfl := Except.ok.inj (hkeyword.symm.trans hsame)
    have hrange := Keyword.isInRange_of_part (List.mem_of_find?_eq_some hfound) hkeyword
    have hvalue := hrange.value "apply_overrides" (by decide)
      ((Part.column?_of_keyword (List.mem_of_find?_eq_some hfound) hkeyword).trans hcolumn)
    simp [ReportControls.ofKeywords, controlInteger, hwritten, hvalue]
  refine ⟨part, hfound, _, _, map_eq_ok_iff.2 ⟨_, hvalue, rfl⟩,
    map_eq_ok_iff.2 ⟨_, hsplit, rfl⟩, ?_⟩
  obtain ⟨hspelled, hplain⟩ := integer_of_overrides hcolumn hkeyword
  rw [hreport]
  constructor
  · intro hzero
    simp [hspelled hzero]
  · intro hzero
    simp [hplain hzero]

end Overrides

/-- A fraction asks for the integer at its start, which is corrected; what comes later does not
count. -/
theorem appliesOverrides_agree_fraction :
    let clock : Clock := .whole 0
    let term := "overrides=0 apply_overrides=7.5 apply_overrides=0"
    "apply_overrides" ∈ writtenColumns term ∧ "_apply_overrides" ∉ writtenColumns term ∧
      ∃ keywords, split clock term none = .ok keywords ∧
        ∃ part ∈ (Part.ofTerm term).find? (·.column? == some "apply_overrides"),
          ∃ applies report, termAppliesOverrides clock (some term) = .ok applies ∧ applies = 1 ∧
            reportControls clock {} (some term) = .ok report ∧
            (part.SpellsZero clock → applies = 1 ∧ report.applyOverrides = 0) ∧
            (¬ part.SpellsZero clock → applies = report.applyOverrides) := by
  intro clock term
  have hset : "apply_overrides" ∈ writtenColumns term := by decide +kernel
  have hprivate : "_apply_overrides" ∉ writtenColumns term := by decide +kernel
  have hreturns : ((split clock term none).map List.length).toOption = some 4 := by
    decide +kernel
  obtain ⟨keywords, hsplit, -⟩ := map_eq_ok_iff.1 (eq_ok_of_toOption hreturns)
  have hone : termAppliesOverrides clock (some term) = .ok 1 :=
    eq_ok_of_toOption (by decide +kernel)
  obtain ⟨part, hpart, applies, report, happlies, hreport, hspelled, hplain⟩ :=
    appliesOverrides_agree hset hprivate hsplit {}
  exact ⟨hset, hprivate, keywords, hsplit, part, hpart, applies, report, happlies,
    Except.ok.inj (happlies.symm.trans hone), hreport, hspelled, hplain⟩

/-- Two digits spell 0: the text is not that of 0, and its integer is. -/
theorem appliesOverrides_agree_two_digits :
    let clock : Clock := .whole 0
    let term := "apply_overrides=00"
    writtenColumns term = ["apply_overrides"] ∧
      termAppliesOverrides clock (some term) = .ok 1 ∧
      (reportControls clock {} (some term)).map (·.applyOverrides) = .ok 0 := by
  intro clock term
  exact ⟨by decide +kernel, eq_ok_of_toOption (by decide +kernel),
    eq_ok_of_toOption (by decide +kernel)⟩

end ListingFilter
