import ListingFilter.Proofs.ClauseMeaning
import ListingFilter.Proofs.Concatenation
import ListingFilter.Proofs.PartKeywords
import ListingFilter.Proofs.Scanning
/-!
# Words with a leading tilde

A word with a leading `~` is searched for like the same word between quotation marks, whatever
stands around it. The tilde protects no operator, though: `~and` is the operator `and`.

The terms that are compared have the same parts but for one. The keywords of the two parts are both
free text, so they touch neither the settings nor the defaults, and they act alike on every draft.
-/

namespace ListingFilter

/-! ### A part among others -/

/-- A part with a blank on each side is found between the parts of what stands around it. -/
theorem Part.ofTerm_between {front text : String} {written : WrittenPart}
    (hfront : EndsOutsideQuotes front) (hwritten : written.IsWellFormed)
    (htext : text.toList = written.text) (back : String) :
    Part.ofTerm (front ++ " " ++ text ++ " " ++ back) =
      Part.ofTerm front ++ written.part :: Part.ofTerm back := by
  have happart : ∀ c ∈ (' ' :: back.toList).head?, isSeparator c = true := by
    rintro c ⟨⟩
    rfl
  have hback : Part.ofTerm (text ++ " " ++ back) = written.part :: Part.ofTerm back := by
    calc Part.ofTerm (text ++ " " ++ back)
        = Scanner.between.parts (text ++ " " ++ back).toList := rfl
      _ = Scanner.between.parts (written.text ++ ' ' :: back.toList) := by simp [htext]
      _ = written.part :: Scanner.between.parts (' ' :: back.toList) :=
        Scanner.parts_writtenPart hwritten happart
      _ = written.part :: Part.ofTerm back :=
        congrArg _ (Scanner.parts_cons_of_step (Scanner.step_between_separator rfl) back.toList)
  calc Part.ofTerm (front ++ " " ++ text ++ " " ++ back)
      = Part.ofTerm (front ++ " " ++ (text ++ " " ++ back)) := by simp only [String.append_assoc]
    _ = Part.ofTerm front ++ written.part :: Part.ofTerm back := by
      rw [Part.ofTerm_append hfront, hback]

/-! ### Keywords that act alike -/

/-- The keywords are on the same column and do the same to every draft. -/
structure Keyword.ActsLike (scope : Scope) (first second : Keyword) : Prop where
  column : first.column = second.column
  add : ∀ draft : Draft, draft.add scope first = draft.add scope second

section Exchange

variable {clock : Clock} {scope : Scope} {keywords keywords' : List Keyword}

theorem Keyword.ActsLike.refl (keyword : Keyword) : keyword.ActsLike scope keyword :=
  ⟨rfl, fun _ => rfl⟩

/-- Whether a keyword repeats a setting is a matter of columns. -/
theorem forall₂_dropRepeats (h : List.Forall₂ (Keyword.ActsLike scope) keywords keywords')
    (seen : List String) :
    List.Forall₂ (Keyword.ActsLike scope) (dropRepeats seen keywords)
      (dropRepeats seen keywords') := by
  induction h generalizing seen with
  | nil => exact .nil
  | @cons keyword keyword' rest rest' hkeyword _ ih =>
    simp only [dropRepeats, ← hkeyword.column]
    cases keyword.column with
    | none => exact .cons hkeyword (ih seen)
    | some column =>
      dsimp only
      split_ifs
      · exact .cons hkeyword (ih seen)
      · exact ih seen
      · exact .cons hkeyword (ih (column :: seen))

theorem setsColumn_of_forall₂ (h : List.Forall₂ (Keyword.ActsLike scope) keywords keywords')
    (column : String) : setsColumn keywords column = setsColumn keywords' column := by
  induction h with
  | nil => rfl
  | cons hkeyword _ ih => rw [setsColumn_cons, setsColumn_cons, hkeyword.column, ih]

theorem foldlM_add_of_forall₂ (h : List.Forall₂ (Keyword.ActsLike scope) keywords keywords')
    (draft : Draft) :
    keywords.foldlM (Draft.add scope) draft = keywords'.foldlM (Draft.add scope) draft := by
  induction h generalizing draft with
  | nil => rfl
  | cons hkeyword _ ih =>
    rw [List.foldlM_cons, List.foldlM_cons, hkeyword.add]
    exact bind_congr ih

/-- What stands in a term may be exchanged for what acts alike. -/
theorem Clause.ofKeywords_of_forall₂
    (h : List.Forall₂ (Keyword.ActsLike scope) keywords keywords') :
    Clause.ofKeywords scope
        (dropRepeats [] keywords ++
          defaultKeywords scope.settings.defaultSort (dropRepeats [] keywords)) =
      Clause.ofKeywords scope
        (dropRepeats [] keywords' ++
          defaultKeywords scope.settings.defaultSort (dropRepeats [] keywords')) := by
  have hkept := forall₂_dropRepeats h []
  have hdefaults : defaultKeywords scope.settings.defaultSort (dropRepeats [] keywords) =
      defaultKeywords scope.settings.defaultSort (dropRepeats [] keywords') :=
    defaultKeywords_congr (fun column _ => setsColumn_of_forall₂ hkept column) _
  have hall : List.Forall₂ (Keyword.ActsLike scope)
      (dropRepeats [] keywords ++
        defaultKeywords scope.settings.defaultSort (dropRepeats [] keywords))
      (dropRepeats [] keywords' ++
        defaultKeywords scope.settings.defaultSort (dropRepeats [] keywords')) := by
    rw [hdefaults]
    exact List.rel_append hkept (List.forall₂_same.2 fun keyword _ => .refl keyword)
  rw [Clause.ofKeywords, Clause.ofKeywords, foldlM_add_of_forall₂ hall]

/-- One part of a term may be exchanged for another one whose keyword acts alike. -/
theorem Clause.compile_exchange {term term' : String} {before after : List Part}
    {part part' : Part} {keyword keyword' : Keyword}
    (hterm : Part.ofTerm term = before ++ part :: after)
    (hterm' : Part.ofTerm term' = before ++ part' :: after)
    (hpart : part.keyword clock = .ok keyword) (hpart' : part'.keyword clock = .ok keyword')
    (hacts : keyword.ActsLike scope keyword') :
    Clause.compile clock scope term = Clause.compile clock scope term' := by
  simp only [Clause.compile, split, writtenKeywords]
  rw [hterm, hterm', List.mapM_append, List.mapM_append, List.mapM_cons, List.mapM_cons, hpart,
    hpart']
  cases before.mapM (Part.keyword clock) with
  | error fault => rfl
  | ok front =>
    cases after.mapM (Part.keyword clock) with
    | error fault => rfl
    | ok back =>
      have hsame : ∀ keywords : List Keyword,
          List.Forall₂ (Keyword.ActsLike scope) keywords keywords :=
        fun keywords => List.forall₂_same.2 fun keyword _ => .refl keyword
      exact Clause.ofKeywords_of_forall₂ (List.rel_append (hsame front) (.cons hacts (hsame back)))

end Exchange

/-! ### Free text that acts alike -/

section FreeText

variable {scope : Scope} {first second : Keyword}

theorem freeTextProbes_congr (htext : first.text = second.text) (hfirst : first.equal = false)
    (hsecond : second.equal = false) (selectColumns whereColumns : List Column)
    (enums : List (String × List String)) (regexp : Bool) (filterColumns : List String) :
    freeTextProbes selectColumns whereColumns enums first regexp filterColumns =
      freeTextProbes selectColumns whereColumns enums second regexp filterColumns := by
  have hoperator : freeTextOperator first regexp = freeTextOperator second regexp := by
    simp only [freeTextOperator, hfirst, hsecond]
  have htarget : freeTextTarget? selectColumns whereColumns enums first =
      freeTextTarget? selectColumns whereColumns enums second := by
    funext name
    simp only [freeTextTarget?, htext, hfirst, hsecond]
  have hprobes : ∀ (columns : List Column) (shared : Option String),
      bindProbes first regexp shared columns = bindProbes second regexp shared columns := by
    intro columns
    induction columns with
    | nil => exact fun _ => rfl
    | cons column rest ih =>
      intro shared
      simp only [bindProbes, hfirst, hsecond, freeTextOperand, hoperator, htext, ih,
        Bool.false_and, Bool.false_eq_true, if_false]
  rw [freeTextProbes, freeTextProbes, htarget, hprobes]

/-- Free text that is not exact is looked for by its text alone, unless it is an operator. -/
theorem Keyword.actsLike_of_text (hcolumn : first.column = none) (hcolumn' : second.column = none)
    (htext : first.text = second.text) (hfirst : first.equal = false)
    (hsecond : second.equal = false) (hoperator : first.operator? = second.operator?) :
    first.ActsLike scope second := by
  refine ⟨hcolumn.trans hcolumn'.symm, fun draft => ?_⟩
  have hcondition : ∀ span : Span,
      Draft.condition scope span first = Draft.condition scope span second := by
    intro span
    simp only [Draft.condition, hcolumn, hcolumn', freeTextProbes_congr htext hfirst hsecond]
  simp only [Draft.add, hoperator, hcolumn, hcolumn']
  cases second.operator? with
  | some operator => rfl
  | none => simp only [Draft.addTerm, hcondition]

end FreeText

/-! ### Words -/

/-- The word can stand in a term behind a tilde and between quotation marks. -/
structure IsSearchWord (word : String) : Prop where
  plain : ∀ c ∈ word.toList, isSeparator c = false ∧ c ≠ '"'
  start : ∀ c ∈ word.toList.head?, c ≠ '\''

instance (word : String) : Decidable (IsSearchWord word) :=
  decidable_of_iff
    ((word.toList.all fun c => !isSeparator c && c != '"') ∧ word.toList.head?.all (· != '\''))
    ⟨fun h => ⟨by simpa using h.1, by simpa [Option.all_eq_true] using h.2⟩,
      fun h => ⟨by simpa using h.plain, by simpa [Option.all_eq_true] using h.start⟩⟩

namespace IsSearchWord

variable {word : String}

theorem isQuoteMark_head (h : IsSearchWord word) :
    ∀ c ∈ word.toList.head?, isQuoteMark c = false := by
  intro c hc
  have hdouble := (h.plain c (List.mem_of_mem_head? hc)).2
  simp [isQuoteMark, hdouble, h.start c hc]

/-- The word behind a tilde. -/
theorem isWellFormed_approx (h : IsSearchWord word) :
    WrittenPart.IsWellFormed ⟨.approx, word.toList, none⟩ where
  lead := rfl
  quoted := by simp
  unquoted _ := ⟨fun c hc => (h.plain c hc).1, h.isQuoteMark_head⟩
  bare _ hbare := by cases hbare

/-- The word between quotation marks. -/
theorem isWellFormed_quoted (h : IsSearchWord word) :
    WrittenPart.IsWellFormed ⟨.bare, word.toList, some '"'⟩ where
  lead := rfl
  quoted := by
    rintro mark ⟨⟩
    exact ⟨rfl, fun hmem => (h.plain '"' hmem).2 rfl⟩
  unquoted hnone := by cases hnone
  bare hnone := by cases hnone

/-- The word by itself, if it is an operator: it holds no symbol that could end a column. -/
theorem isWellFormed_operator (h : IsSearchWord word) (hoperator : Operator.ofWord? word ≠ none) :
    WrittenPart.IsWellFormed ⟨.bare, word.toList, none⟩ := by
  have hlower : Text.lower word ∈ ["and", "or", "not", "re", "regexp"] := by
    by_contra hother
    simp only [List.mem_cons, List.not_mem_nil, or_false, not_or] at hother
    simp [Operator.ofWord?, hother] at hoperator
  have hsymbol : ∀ c ∈ word.toList, Comparison.ofSymbol? c = none := by
    intro c hc
    cases hcomparison : Comparison.ofSymbol? c with
    | none => rfl
    | some comparison =>
      have hsame := Comparison.symbol_of_ofSymbol? hcomparison
      have hmem : comparison.symbol ∈ (Text.lower word).toList := by
        subst hsame
        cases comparison <;> exact Text.mem_lower hc (by decide) (by decide)
      revert hmem
      simp only [List.mem_cons, List.not_mem_nil, or_false] at hlower
      rcases hlower with hlower | hlower | hlower | hlower | hlower <;> rw [hlower] <;>
        cases comparison <;> decide
  refine ⟨rfl, by simp, fun _ => ⟨fun c hc => (h.plain c hc).1, h.isQuoteMark_head⟩,
    fun _ _ => ⟨?_, fun c hc => ?_, ?_⟩⟩
  · rintro hnil
    obtain rfl : word = "" := by simpa using hnil
    exact hoperator rfl
  · have hnone := hsymbol c (List.mem_of_mem_head? hc)
    constructor <;> rintro rfl <;> cases hnone
  · rintro ⟨name, c, rest, hword, -, hc⟩
    have hmem : c ∈ word.toList := by
      rw [show word.toList = name ++ c :: rest from hword]
      simp
    rw [hsymbol c hmem] at hc
    cases hc

end IsSearchWord

/-- A word behind a tilde acts like a word between quotation marks that is no operator either, and
like the word by itself whatever it is. -/
theorem actsLike_approx (scope : Scope) (word : String) :
    (Operator.ofWord? word = none →
      (Part.freeText ⟨.approx, word, false⟩).ActsLike scope (Part.freeText ⟨.bare, word, true⟩)) ∧
    (Part.freeText ⟨.approx, word, false⟩).ActsLike scope (Part.freeText ⟨.bare, word, false⟩) := by
  refine ⟨fun hoperator => ?_, ?_⟩
  · refine Keyword.actsLike_of_text ?_ ?_ ?_ ?_ ?_ ?_ <;> simp [Keyword.operator?, hoperator]
  · refine Keyword.actsLike_of_text ?_ ?_ ?_ ?_ ?_ ?_ <;> simp [Keyword.operator?]

section Terms

variable {front word : String} (hfront : EndsOutsideQuotes front) (hword : IsSearchWord word)
  (back : String)
include hfront hword

theorem ofTerm_approx :
    Part.ofTerm (front ++ " " ++ ("~" ++ word) ++ " " ++ back) =
      Part.ofTerm front ++ ⟨.approx, word, false⟩ :: Part.ofTerm back := by
  rw [Part.ofTerm_between hfront hword.isWellFormed_approx (by simp [WrittenPart.text, Lead.text])]
  simp [WrittenPart.part, Lead.lower]

theorem ofTerm_quoted :
    Part.ofTerm (front ++ " " ++ ("\"" ++ word ++ "\"") ++ " " ++ back) =
      Part.ofTerm front ++ ⟨.bare, word, true⟩ :: Part.ofTerm back := by
  rw [Part.ofTerm_between hfront hword.isWellFormed_quoted (by simp [WrittenPart.text, Lead.text])]
  simp [WrittenPart.part, Lead.lower]

theorem ofTerm_operator (hoperator : Operator.ofWord? word ≠ none) :
    Part.ofTerm (front ++ " " ++ word ++ " " ++ back) =
      Part.ofTerm front ++ ⟨.bare, word, false⟩ :: Part.ofTerm back := by
  rw [Part.ofTerm_between hfront (hword.isWellFormed_operator hoperator)
    (by simp [WrittenPart.text, Lead.text])]
  simp [WrittenPart.part, Lead.lower]

/-- A word with a leading tilde is searched for like the word between quotation marks if it is no
operator, and is the operator otherwise. -/
theorem compile_approx (clock : Clock) (scope : Scope) :
    (Operator.ofWord? word = none →
      Clause.compile clock scope (front ++ " " ++ ("~" ++ word) ++ " " ++ back) =
        Clause.compile clock scope (front ++ " " ++ ("\"" ++ word ++ "\"") ++ " " ++ back)) ∧
    (Operator.ofWord? word ≠ none →
      Clause.compile clock scope (front ++ " " ++ ("~" ++ word) ++ " " ++ back) =
        Clause.compile clock scope (front ++ " " ++ word ++ " " ++ back)) := by
  have hpart : ∀ lead quoted, lead = .bare ∨ lead = .approx →
      Part.keyword clock ⟨lead, word, quoted⟩ = .ok (Part.freeText ⟨lead, word, quoted⟩) := by
    rintro lead quoted (rfl | rfl) <;> rfl
  obtain ⟨hquoted, hbare⟩ := actsLike_approx scope word
  refine ⟨fun hoperator => ?_, fun hoperator => ?_⟩
  · exact Clause.compile_exchange (ofTerm_approx hfront hword back)
      (ofTerm_quoted hfront hword back) (hpart .approx false (.inr rfl))
      (hpart .bare true (.inl rfl)) (hquoted hoperator)
  · exact Clause.compile_exchange (ofTerm_approx hfront hword back)
      (ofTerm_operator hfront hword back hoperator) (hpart .approx false (.inr rfl))
      (hpart .bare false (.inl rfl)) hbare

end Terms

/-- A closed quotation and a pending `not` in front of the word, an apostrophe inside of it, a
control behind it; and a word in other letters that is an operator. -/
theorem compile_approx_apostrophe :
    let front := "name~\"a b\" not"
    let back := "or first=2"
    let scope : Scope :=
      { filterColumns := ["name"], selectColumns := [.named "name" "w.name" .string],
        whereColumns := [], sorts := [], table := none, resourceType := "widget", enums := [],
        settings := {}, ignoreCap := false }
    let compile := Clause.compile (.whole 0) scope
    let condition := "(CAST(w.name AS TEXT) ILIKE :fp_0) OR " ++
      "((w.name IS NULL OR CAST(w.name AS TEXT) NOT ILIKE :fp_1))"
    (EndsOutsideQuotes front ∧ IsSearchWord "x'y" ∧ Operator.ofWord? "x'y" = none ∧
      compile (front ++ " " ++ ("~" ++ "x'y") ++ " " ++ back) =
        compile (front ++ " " ++ ("\"" ++ "x'y" ++ "\"") ++ " " ++ back) ∧
      (compile (front ++ " " ++ ("~" ++ "x'y") ++ " " ++ back)).toOption.map (·.condition) =
        some (some condition)) ∧
    (IsSearchWord "Or" ∧ Operator.ofWord? "Or" ≠ none ∧
      compile ("a" ++ " " ++ ("~" ++ "Or") ++ " " ++ "b") =
        compile ("a" ++ " " ++ "Or" ++ " " ++ "b")) := by
  intro front back scope compile condition
  have hfront : EndsOutsideQuotes front := by decide +kernel
  have hword : IsSearchWord "x'y" := by decide +kernel
  have hplain : Operator.ofWord? "x'y" = none := by decide +kernel
  have hor : IsSearchWord "Or" := by decide +kernel
  have hoperator : Operator.ofWord? "Or" ≠ none := by decide +kernel
  refine ⟨⟨hfront, hword, hplain, ?_, by decide +kernel⟩, hor, hoperator, ?_⟩
  · exact (compile_approx hfront hword back (.whole 0) scope).1 hplain
  · exact (compile_approx (by decide +kernel) hor "b" (.whole 0) scope).2 hoperator

/-- The word `and` joins what stands around it behind a tilde, and is searched for between
quotation marks. -/
theorem compile_approx_operator :
    let scope : Scope :=
      { filterColumns := ["name"], selectColumns := [.named "name" "w.name" .string],
        whereColumns := [], sorts := [], table := none, resourceType := "widget", enums := [],
        settings := {}, ignoreCap := false }
    let compile := Clause.compile (.whole 0) scope
    let joined := "(CAST(w.name AS TEXT) ILIKE :fp_0) AND (CAST(w.name AS TEXT) ILIKE :fp_1)"
    let searched := "(CAST(w.name AS TEXT) ILIKE :fp_0) OR (CAST(w.name AS TEXT) ILIKE :fp_1)" ++
      " OR (CAST(w.name AS TEXT) ILIKE :fp_2)"
    EndsOutsideQuotes "a" ∧ IsSearchWord "and" ∧
      (compile ("a" ++ " " ++ ("~" ++ "and") ++ " " ++ "b")).toOption.map (·.condition) =
        some (some joined) ∧
      (compile ("a" ++ " " ++ ("\"" ++ "and" ++ "\"") ++ " " ++ "b")).toOption.map
        (·.condition) = some (some searched) ∧
      joined ≠ searched := by
  intro scope compile joined searched
  exact ⟨by decide +kernel, by decide +kernel, by decide +kernel, by decide +kernel,
    by decide +kernel⟩

end ListingFilter
