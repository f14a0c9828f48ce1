import ListingFilter.Proofs.ControlSettings
import ListingFilter.Proofs.PageAgreement
import ListingFilter.Proofs.SplitFailures
/-!
# What is asked of an option

A part asks an option for the integer that its text stands for, or else for the integer at the start
of its text. The keyword on the option holds the legal value for what is asked, and the text of the
part as long as that value is what was asked.

The integer at the start of a text is held within the bounds of a machine integer. An integer in
digits, a time relative to the clock and a date are not. All options but those of the page have
narrower bounds of their own, so those of the page are the ones that can leave the bounds of a
machine integer, and they do so exactly where a greater integer is written.
-/

namespace ListingFilter

open Keyword (integerControls pageColumns legalValue correction?)

section Options

variable {clock : Clock} {part : Part} {keyword : Keyword} {option : String}

theorem lower_of_integerControls (h : option ∈ integerControls) : Text.lower option = option := by
  have hall : (integerControls.all fun option => Text.lower option == option) = true := by
    decide +kernel
  simpa using List.all_eq_true.1 hall option h

/-! ### The integer that is asked for -/

/-- The integer that a value asks for, where `body` is its text. -/
def TypedValue.asked (body : String) : TypedValue → Int
  | .integer n => n
  | .double _ | .string => leadingInteger body

/-- The integer that the part asks for on its column. -/
def Part.asked (clock : Clock) (part : Part) : Except Fault Int :=
  (TypedValue.of clock part.column? part.body).map (·.asked part.body)

theorem Part.controlValue_typed (part : Part) (column : Option String) (relation : Relation)
    (value : TypedValue) :
    (part.typed column relation value).controlValue = value.asked part.body := by
  cases value <;> rfl

section Asked

variable (hcolumn : part.column? = some option) (hoption : option ∈ integerControls)
include hcolumn hoption

theorem Part.of_eq_integer_iff {n : Int} :
    TypedValue.of clock part.column? part.body = .ok (.integer n) ↔
      TypedValue.IsInteger clock part.body.toList n := by
  refine TypedValue.of_eq_integer_iff ?_
  rw [hcolumn]
  exact Keyword.severityColumns_of_integerControls (lower_of_integerControls hoption) hoption

theorem Part.asked_of_isInteger {n : Int} (h : TypedValue.IsInteger clock part.body.toList n) :
    part.asked clock = .ok n :=
  map_eq_ok_iff.2 ⟨_, (Part.of_eq_integer_iff hcolumn hoption).2 h, rfl⟩

/-- An integer that is asked for is written as such, or stands at the start of the text. -/
theorem Part.asked_cases {asked : Int} (h : part.asked clock = .ok asked) :
    TypedValue.IsInteger clock part.body.toList asked ∨
      ((∀ n, ¬ TypedValue.IsInteger clock part.body.toList n) ∧
        asked = leadingInteger part.body) := by
  obtain ⟨value, hvalue, rfl⟩ := map_eq_ok_iff.1 h
  have hother : (∀ n, value ≠ .integer n) →
      ∀ n, ¬ TypedValue.IsInteger clock part.body.toList n := by
    intro hne n hinteger
    have hsame := hvalue.symm.trans ((Part.of_eq_integer_iff hcolumn hoption).2 hinteger)
    exact hne n (Except.ok.inj hsame)
  cases value with
  | integer n => exact .inl ((Part.of_eq_integer_iff hcolumn hoption).1 hvalue)
  | double value => exact .inr ⟨hother (by simp), rfl⟩
  | string => exact .inr ⟨hother (by simp), rfl⟩

/-! ### The keyword on an option -/

/-- The keyword has the legal value for what is asked, and the text of the part if that value is
legal already. -/
structure Keyword.Answers (option body : String) (asked : Int) (keyword : Keyword) : Prop where
  column : keyword.column = some option
  integer : keyword.integer = legalValue option asked
  text : keyword.text =
    if correction? option asked = none then body else toString (legalValue option asked)

theorem Part.exists_answers (h : part.keyword clock = .ok keyword) :
    ∃ asked, part.asked clock = .ok asked ∧ keyword.Answers option part.body asked := by
  rcases Part.keyword_cases h with ⟨hlead, -⟩ | ⟨hlead, -⟩ |
    ⟨name, comparison, value, hlead, hvalue, hlegal⟩
  · rcases hlead with hlead | hlead <;> simp [Part.column?, hlead] at hcolumn
  · simp [Part.column?, hlead] at hcolumn
  obtain rfl : name = option := by simpa [Part.column?, hlead] using hcolumn
  refine ⟨value.asked part.body, by rw [Part.asked, hcolumn, hvalue]; rfl, ?_⟩
  rcases Keyword.legal_cases rfl (lower_of_integerControls hoption) hlegal with
    ⟨hcontrol, -⟩ | ⟨-, hinteger, -⟩ | ⟨-, corrected, hcorrected, rfl⟩ | ⟨-, hkept, -, rfl⟩
  · exact absurd (Keyword.integerControls_subset hoption) hcontrol
  · exact absurd hoption hinteger
  · rw [Part.controlValue_typed] at hcorrected
    have hvalue := Keyword.legalValue_of_some hcorrected
    exact ⟨rfl, hvalue.symm, by simp [hcorrected, hvalue, Keyword.withControl]⟩
  · rw [Part.controlValue_typed] at hkept ⊢
    have hvalue := Keyword.legalValue_of_none hkept
    exact ⟨rfl, hvalue.symm, by simp [hkept, Keyword.withControl, Part.typed]⟩

end Asked

end Options

/-! ### Machine integers -/

/-- The legal values of the page have no upper bound; all others are small. -/
theorem isMachineInteger_legalValue_iff (option : String) (asked : Int) :
    IsMachineInteger (legalValue option asked) ↔
      (option ∈ pageColumns → asked ≤ greatestLeading) := by
  simp only [IsMachineInteger, leastLeading, greatestLeading]
  cases hcorrection : correction? option asked with
  | none =>
    rw [Keyword.legalValue_of_none hcorrection]
    by_cases hpage : option ∈ pageColumns
    · have := (Keyword.correction?_of_pageColumns hpage).2 hcorrection
      simp only [hpage, forall_const]
      omega
    · have := Keyword.natAbs_lt_of_correction? hpage hcorrection
      simp only [hpage, false_imp_iff, iff_true]
      omega
  | some corrected =>
    have := Keyword.correction?_natAbs hcorrection
    rw [Keyword.legalValue_of_some hcorrection]
    refine iff_of_true (by omega) fun hpage => ?_
    by_contra hgreat
    have hnone := (Keyword.correction?_of_pageColumns hpage).1 (show 1 ≤ asked by omega)
    rw [hnone] at hcorrection
    cases hcorrection

/-! ### The integers of a term -/

section Terms

variable {clock : Clock} {term : String} {defaultSort : Option String} {keywords : List Keyword}
  {keyword : Keyword} {option : String}

/-- The first part on the option is an integer above those of a machine, in digits, as a time
relative to the clock or as a date. -/
def WritesAbove (clock : Clock) (term option : String) : Prop :=
  ∃ part ∈ (Part.ofTerm term).find? (·.column? == some option),
    ∃ n, TypedValue.IsInteger clock part.body.toList n ∧ greatestLeading < n

/-- What is asked for is above the machine integers if it is written as such an integer. -/
theorem Part.greatestLeading_lt_asked_iff {part : Part} (hcolumn : part.column? = some option)
    (hoption : option ∈ integerControls) {asked : Int} (h : part.asked clock = .ok asked) :
    greatestLeading < asked ↔
      ∃ n, TypedValue.IsInteger clock part.body.toList n ∧ greatestLeading < n := by
  constructor
  · intro habove
    rcases Part.asked_cases hcolumn hoption h with hinteger | ⟨-, hleading⟩
    · exact ⟨asked, hinteger, habove⟩
    · have := (isMachineInteger_leadingInteger part.body).2
      omega
  · rintro ⟨n, hinteger, habove⟩
    have hsame := h.symm.trans (Part.asked_of_isInteger hcolumn hoption hinteger)
    rwa [Except.ok.inj hsame]

theorem integerControls_subset_singleUse (h : option ∈ integerControls) :
    option ∈ singleUseColumns := by
  revert option
  decide

/-- The keyword that readers find on an option is in range, and a machine integer unless a greater
one is written for the page. -/
theorem isMachineInteger_of_findColumn? (h : split clock term defaultSort = .ok keywords)
    (hoption : option ∈ integerControls) (hfound : findColumn? keywords option = some keyword) :
    keyword.IsInRange ∧
      (IsMachineInteger keyword.integer ↔
        (option ∈ pageColumns → ¬ WritesAbove clock term option)) := by
  obtain ⟨written, hrel, hwritten⟩ :=
    findColumn?_of_split h (integerControls_subset_singleUse hoption)
  rw [hfound] at hwritten
  cases hpart : (Part.ofTerm term).find? (·.column? == some option) with
  | none =>
    have hnot : ¬ WritesAbove clock term option := by
      rintro ⟨part, hmem, -⟩
      rw [hpart] at hmem
      cases hmem
    rw [hpart] at hrel
    cases hrel
    rw [Option.none_or] at hwritten
    have hdefault : keyword ∈ allDefaults defaultSort := List.mem_of_find?_eq_some hwritten.symm
    refine ⟨isInRange_of_mem_defaultKeywords hdefault, iff_of_true ?_ fun _ => hnot⟩
    have hzero : IsMachineInteger 0 := by decide
    rcases mem_defaultKeywords hdefault with ⟨rfl, -⟩ | ⟨rfl, -⟩ | ⟨field, -, rfl⟩
    · decide
    · decide
    · exact hzero
  | some part =>
    rw [hpart] at hrel
    obtain ⟨hkeyword⟩ := hrel
    obtain rfl := Option.some.inj hwritten
    have hmem : part ∈ Part.ofTerm term := List.mem_of_find?_eq_some hpart
    have hcolumn : part.column? = some option := by simpa using List.find?_some hpart
    obtain ⟨asked, hasked, hanswers⟩ := Part.exists_answers hcolumn hoption hkeyword
    refine ⟨Keyword.isInRange_of_part hmem hkeyword, ?_⟩
    rw [hanswers.integer, isMachineInteger_legalValue_iff, ← not_lt,
      Part.greatestLeading_lt_asked_iff hcolumn hoption hasked]
    simp [WritesAbove, hpart]

/-- The integers of the options are machine integers, and so is the end of what a clause leaves out,
unless a greater integer is written for the page. -/
theorem isMachineInteger_of_split (h : split clock term defaultSort = .ok keywords) :
    (∀ keyword ∈ keywords, ∀ option ∈ integerControls, keyword.column = some option →
      (IsMachineInteger keyword.integer ↔
        (option ∈ pageColumns → ¬ WritesAbove clock term option))) ∧
    ∀ scope clause, Clause.compile clock scope term = .ok clause →
      (clause.first ≤ greatestLeading - 1 ↔ ¬ WritesAbove clock term "first") := by
  constructor
  · intro keyword hmem option hoption hcolumn
    have hon : keyword ∈ keywordsOn keywords option := by simp [keywordsOn, hmem, hcolumn]
    rw [keywordsOn_eq_of_isSettled (isSettled_of_split h).1
      (integerControls_subset_singleUse hoption), Option.mem_toList] at hon
    exact (isMachineInteger_of_findColumn? h hoption hon).2
  · intro scope clause hclause
    obtain ⟨keywords, hsplit, hfirst, -⟩ := Clause.page_eq_controlsOf hclause
    obtain ⟨⟨keyword, hfound⟩, -⟩ := exists_findColumn?_page hsplit
    have hcolumn : keyword.column = some "first" := by simpa using List.find?_some hfound
    obtain ⟨hrange, hmachine⟩ := isMachineInteger_of_findColumn? hsplit (by decide) hfound
    have hwritten := hmachine.trans (forall_prop_of_true (show "first" ∈ pageColumns by decide))
    have hpositive := hrange.first hcolumn
    have hread : controlInteger keywords "first" 1 = keyword.integer := by
      rw [controlInteger, hfound, Option.map_some, Option.getD_some,
        hrange.value "first" (by decide) hcolumn]
    have hbefore : clause.first = max (keyword.integer - 1) 0 := by
      rw [hfirst, ← hread]
      rfl
    rw [← hwritten, hbefore]
    simp only [IsMachineInteger, leastLeading]
    omega

end Terms

/-! ### Integers above the machine integers -/

/-- A relative time, an integer above the bound, a date, a fraction and a quotation, and digits
above the bound that are no integer as a whole. -/
theorem isMachineInteger_mixed_values :
    let clock : Clock := .whole 0
    let scope : Scope :=
      { filterColumns := [], selectColumns := [], whereColumns := [], sorts := [], table := none,
        resourceType := "widget", enums := [], settings := {}, ignoreCap := false }
    let term := "first>5d rows=9999999999 notes=2024-01-31 min_qod=-3d overrides=7.5 " ++
      "apply_overrides='4 of 5' result_hosts_only=9999999999x"
    ∃ keywords clause, split clock term none = .ok keywords ∧
      keywords.map (fun keyword => (keyword.column, keyword.integer)) =
        [(some "first", 432000), (some "rows", 9999999999), (some "notes", 1),
          (some "min_qod", 0), (some "overrides", 1), (some "apply_overrides", 1),
          (some "result_hosts_only", 1)] ∧
      Clause.compile clock scope term = .ok clause ∧ clause.first = 431999 ∧
      (∀ keyword ∈ keywords, ∀ option ∈ integerControls, keyword.column = some option →
        (IsMachineInteger keyword.integer ↔
          (option ∈ pageColumns → ¬ WritesAbove clock term option))) ∧
      (clause.first ≤ greatestLeading - 1 ↔ ¬ WritesAbove clock term "first") := by
  intro clock scope term
  have hkeywords : ((split clock term none).map fun keywords =>
      keywords.map fun keyword => (keyword.column, keyword.integer)).toOption =
        some [(some "first", 432000), (some "rows", 9999999999), (some "notes", 1),
          (some "min_qod", 0), (some "overrides", 1), (some "apply_overrides", 1),
          (some "result_hosts_only", 1)] := by decide +kernel
  have hclause : ((Clause.compile clock scope term).map (·.first)).toOption = some 431999 := by
    decide +kernel
  obtain ⟨keywords, hsplit, hvalues⟩ := map_eq_ok_iff.1 (eq_ok_of_toOption hkeywords)
  obtain ⟨clause, hcompile, hfirst⟩ := map_eq_ok_iff.1 (eq_ok_of_toOption hclause)
  obtain ⟨hmachine, hpage⟩ := isMachineInteger_of_split hsplit
  exact ⟨keywords, clause, hsplit, hvalues, hcompile, hfirst, hmachine,
    hpage scope clause hcompile⟩

/-- The greatest integer of 64 bits and two more, as the first row. -/
theorem isMachineInteger_first_above :
    let clock : Clock := .whole 0
    let scope : Scope :=
      { filterColumns := [], selectColumns := [], whereColumns := [], sorts := [], table := none,
        resourceType := "widget", enums := [], settings := {}, ignoreCap := false }
    let term := "first=9223372036854775809"
    ((split clock term none).map fun keywords =>
        keywords.map fun keyword => (keyword.column, keyword.integer)).toOption =
      some [(some "first", 9223372036854775809), (some "rows", -2)] ∧
    ¬ IsMachineInteger 9223372036854775809 ∧
    ((Clause.compile clock scope term).map (·.first)).toOption = some 9223372036854775808 ∧
    ¬ (9223372036854775808 : Int) ≤ greatestLeading - 1 := by
  intro clock scope term
  exact ⟨by decide +kernel, by decide, by decide +kernel, by decide⟩

end ListingFilter
