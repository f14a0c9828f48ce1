import ListingFilter.Clause
import ListingFilter.Proofs.Outcomes
import ListingFilter.Proofs.SearchPatterns
/-!
# Columns with known values

Free text is not looked for in a column none of whose known values could hold it. For a text that is
no pattern nothing is lost: the condition that is left out matches none of these values. The same
comparison serves for regular expressions, and there a pattern with an anchor is lost: it matches by
its body, but it is looked for with the mark of the anchor.
-/

namespace ListingFilter

open Sql (LiteralPattern ilike likeWildcards regexpMarks)
open Text (capitalSigma contains lower)

section Skipped

variable {selectColumns whereColumns : List Column} {enums : List (String × List String)}
  {keyword : Keyword} {name : String} {column : Column} {values : List String}

/-- A column of a search without known values is left out because of those it has. -/
theorem enumAllows_of_skipped
    (hfull : freeTextTarget? selectColumns whereColumns [] keyword name = some column)
    (hskip : freeTextTarget? selectColumns whereColumns enums keyword name = none) :
    keyword.equal = false ∧ enumAllows enums name keyword.text = false := by
  unfold freeTextTarget? at hfull hskip
  split_ifs at hfull hskip with hreach hopen hallows
  · rw [hfull] at hskip
    cases hskip
  · simpa using hallows

theorem enumAllows_eq_false_iff :
    enumAllows enums name keyword.text = false ↔ ∃ values, knownValues? enums name = some values ∧
      ∀ value ∈ values, contains (lower value) (lower keyword.text) = false := by
  unfold enumAllows
  cases knownValues? enums name with
  | none => simp
  | some values => simp

/-- A pattern without anchors that matches a known value is a part of it, in lower case too unless
a capital sigma is in it. -/
theorem contains_lower_of_matches {pattern : LiteralPattern} {value : String}
    (hopen : ¬ pattern.IsAnchored) (hsigma : capitalSigma ∉ pattern.body.toList)
    (h : pattern.Matches value) : contains (lower value) (lower pattern.text) = true := by
  rw [LiteralPattern.text_of_not_isAnchored hopen]
  exact Text.contains_lower hsigma h.isInfix

/-- A pattern with an anchor leaves out every column whose known values hold no mark of an
anchor. -/
theorem freeTextTarget?_of_isAnchored {pattern : LiteralPattern} (hequal : keyword.equal = false)
    (hvalues : knownValues? enums name = some values)
    (hplain : ∀ value ∈ values, '^' ∉ value.toList ∧ '$' ∉ value.toList)
    (htext : pattern.text = keyword.text) (hanchored : pattern.IsAnchored) :
    freeTextTarget? selectColumns whereColumns enums keyword name = none := by
  have hallows : enumAllows enums name keyword.text = false := by
    refine enumAllows_eq_false_iff.2 ⟨values, hvalues, fun value hvalue => ?_⟩
    obtain ⟨hcaret, hdollar⟩ := hplain value hvalue
    rw [← htext, Bool.eq_false_iff]
    intro hcontains
    have hpart := Text.contains_iff.1 hcontains
    have hmark : ∀ {mark : Char}, Text.IsMark mark → mark ∈ pattern.text.toList →
        mark ∈ value.toList := fun hmark hmem =>
      (Text.mem_lower_iff hmark).1 (hpart.subset ((Text.mem_lower_iff hmark).2 hmem))
    rcases LiteralPattern.anchor_mem_text hanchored with hmem | hmem
    · exact hcaret (hmark (by simp [Text.IsMark]) hmem)
    · exact hdollar (hmark (by simp [Text.IsMark]) hmem)
  simp [freeTextTarget?, hequal, hallows]

/-- A column that is left out because of its known values would have matched none of them: not as a
text without wildcards, and not as a regular expression unless that has an anchor or a capital
sigma. -/
theorem freeTextTarget?_skipped
    (hfull : freeTextTarget? selectColumns whereColumns [] keyword name = some column)
    (hskip : freeTextTarget? selectColumns whereColumns enums keyword name = none) :
    keyword.equal = false ∧ ∃ values, knownValues? enums name = some values ∧
      ((∀ c ∈ keyword.text.toList, c ∉ likeWildcards) → ∀ value ∈ values,
        contains (lower value) (lower keyword.text) = false ∧
        ilike ("%" ++ keyword.text ++ "%") value = false) ∧
      ∀ pattern : LiteralPattern, pattern.text = keyword.text → ∀ value ∈ values,
        pattern.Matches value → pattern.IsAnchored ∨ capitalSigma ∈ pattern.body.toList := by
  obtain ⟨hequal, hallows⟩ := enumAllows_of_skipped hfull hskip
  obtain ⟨values, hvalues, hmissing⟩ := enumAllows_eq_false_iff.1 hallows
  refine ⟨hequal, values, hvalues, fun hplain value hvalue => ?_,
    fun pattern htext value hvalue hmatches => ?_⟩
  · exact ⟨hmissing value hvalue, (Sql.ilike_containing hplain value).trans (hmissing value hvalue)⟩
  · by_contra hneither
    obtain ⟨hopen, hsigma⟩ := not_or.1 hneither
    have hfound := contains_lower_of_matches hopen hsigma hmatches
    rw [htext, hmissing value hvalue] at hfound
    cases hfound

end Skipped

/-- `Higher` is no part of a threat, and as a pattern it matches none. -/
theorem freeTextTarget?_skips_higher :
    ∃ values, knownValues? commonEnums "_threat" = some values ∧ "High" ∈ values ∧
      (∀ value ∈ values, ilike "%Higher%" value = false) ∧
      ∀ value ∈ values,
        ¬ (LiteralPattern.mk false "Higher" false (by simp [regexpMarks])).Matches value := by
  have hfull : freeTextTarget? [.named "_threat" "t.threat" .string] [] [] { text := "Higher" }
      "_threat" = some (.named "_threat" "t.threat" .string) := by decide +kernel
  have hskip : freeTextTarget? [.named "_threat" "t.threat" .string] [] commonEnums
      { text := "Higher" } "_threat" = none := by decide +kernel
  obtain ⟨-, values, hvalues, hplain, hpattern⟩ := freeTextTarget?_skipped hfull hskip
  have hthreats : knownValues? commonEnums "_threat" = some threatLevels := by decide +kernel
  obtain rfl := Option.some.inj (hthreats.symm.trans hvalues)
  have htext : ∀ c ∈ "Higher".toList, c ∉ likeWildcards := by simp [likeWildcards]
  refine ⟨_, hvalues, by decide, fun value hvalue => (hplain htext value hvalue).2, ?_⟩
  intro value hvalue hmatches
  have hneither := hpattern _ rfl value hvalue hmatches
  simp [LiteralPattern.IsAnchored, capitalSigma] at hneither

/-- The pattern `^High` matches a known threat, but the column of threats is left out. -/
theorem freeTextTarget?_loses_anchored :
    ∃ pattern : LiteralPattern, pattern.text = "^High" ∧ pattern.Matches "High" ∧
      "High" ∈ threatLevels ∧ knownValues? commonEnums "threat" = some threatLevels ∧
      freeTextTarget? [.named "threat" "t" .string] [] [] { text := "^High" } "threat" =
        some (.named "threat" "t" .string) ∧
      freeTextTarget? [.named "threat" "t" .string] [] commonEnums { text := "^High" } "threat" =
        none := by
  have hliteral : ∀ c ∈ "High".toList, c ∉ regexpMarks := by simp [regexpMarks]
  have hanchored : (LiteralPattern.mk true "High" false hliteral).IsAnchored := .inl rfl
  have hvalues : knownValues? commonEnums "threat" = some threatLevels := by decide +kernel
  have hplain : ∀ value ∈ threatLevels, '^' ∉ value.toList ∧ '$' ∉ value.toList := by
    decide +kernel
  refine ⟨⟨true, "High", false, hliteral⟩, rfl, ⟨[], [], by simp, by simp, by simp⟩, by decide,
    hvalues, by decide +kernel, ?_⟩
  exact freeTextTarget?_of_isAnchored rfl hvalues hplain rfl hanchored

/-- The last sigma of a pattern takes its final form, the same one inside a value does not. -/
example :
    ∃ pattern : LiteralPattern, pattern.text = "ΑΣ" ∧ pattern.Matches "ΑΣΑ" ∧
      freeTextTarget? [.named "word" "w" .string] [] [("word", ["ΑΣΑ"])] { text := "ΑΣ" } "word" =
        none := by
  refine ⟨⟨false, "ΑΣ", false, by simp [regexpMarks]⟩, rfl,
    ⟨[], ['Α'], by decide, by simp, by simp⟩, by decide +kernel⟩

end ListingFilter
