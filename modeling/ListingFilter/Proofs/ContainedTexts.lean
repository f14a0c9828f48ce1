import ListingFilter.Sql.Bindings
import ListingFilter.Proofs.SearchPatterns
/-!
# Texts that hold a part

`containsPattern` puts a part between two `%` as it is, so the wildcards in the part keep their
meaning. The main result is `containsPattern_spec`: the pattern matches the values that hold the
part exactly when there is no wildcard in it. For the other parts `likeSample` is a value that the
pattern matches although it does not hold the part.
-/

namespace ListingFilter.Sql

open Text (IsLower contains lower)

/-! ### A value for each pattern -/

/-- A text that the pattern matches in front of a closing `%`, with nothing for a `%` of its own and
a hyphen for a `_`. A backslash at the end makes the closing `%` stand for itself. -/
def likeSample : List Char → List Char
  | [] => []
  | '%' :: pattern => likeSample pattern
  | '_' :: pattern => '-' :: likeSample pattern
  | ['\\'] => ['%']
  | '\\' :: c :: pattern => c :: likeSample pattern
  | c :: pattern => c :: likeSample pattern

variable {pattern : List Char} {c : Char}

/-- A character that stands for itself in a pattern, by what it is not. -/
theorem notMem_likeWildcards (hpercent : c ≠ '%') (hunderscore : c ≠ '_')
    (hend : c = '\\' → pattern = [] → False)
    (hescaped : ∀ d rest, c = '\\' → pattern = d :: rest → False) : c ∉ likeWildcards := by
  have hbackslash : c ≠ '\\' := by
    intro hc
    cases pattern with
    | nil => exact hend hc rfl
    | cons d rest => exact hescaped d rest hc rfl
  simp [likeWildcards, hpercent, hunderscore, hbackslash]

theorem likeSample_cons (h : c ∉ likeWildcards) (pattern : List Char) :
    likeSample (c :: pattern) = c :: likeSample pattern := by
  simp only [likeWildcards, List.mem_cons, List.not_mem_nil, or_false, not_or] at h
  rw [likeSample] <;> simp_all

theorem likeChars_likeSample (pattern : List Char) :
    likeChars (pattern ++ ['%']) (likeSample pattern) = true := by
  fun_induction likeSample pattern with
  | case1 => rfl
  | case2 pattern ih => exact (likeChars_percent_iff _).2 ⟨[], _, rfl, ih⟩
  | case3 pattern ih => exact ih
  | case4 => rfl
  | case5 c pattern ih => simpa [likeChars] using ih
  | case6 c pattern hpercent hunderscore hend hescaped ih =>
    have hc := notMem_likeWildcards hpercent hunderscore hend hescaped
    rw [List.cons_append, likeChars_cons hc, ih, beq_self_eq_true, Bool.and_self]

theorem length_likeSample_le (pattern : List Char) :
    (likeSample pattern).length ≤ pattern.length := by
  fun_induction likeSample pattern <;> simp_all <;> omega

theorem eq_likeSample_iff : pattern = likeSample pattern ↔ ∀ c ∈ pattern, c ∉ likeWildcards := by
  constructor
  · fun_induction likeSample pattern with
    | case1 => simp
    | case2 pattern ih | case5 c pattern ih =>
      -- The sample is too short.
      intro h
      have hlength := congrArg List.length h
      have hshort := length_likeSample_le pattern
      simp only [List.length_cons] at hlength
      omega
    | case3 pattern ih => exact fun h => absurd (List.cons.inj h).1 (by decide)
    | case4 => exact fun h => absurd (List.cons.inj h).1 (by decide)
    | case6 c pattern hpercent hunderscore hend hescaped ih =>
      intro h
      have hc := notMem_likeWildcards hpercent hunderscore hend hescaped
      exact List.forall_mem_cons.2 ⟨hc, ih (List.cons.inj h).2⟩
  · intro h
    induction pattern with
    | nil => rfl
    | cons c pattern ih =>
      obtain ⟨hc, hpattern⟩ := List.forall_mem_cons.1 h
      rw [likeSample_cons hc, ← ih hpattern]

theorem mem_likeSample (h : c ∈ likeSample pattern) : c ∈ pattern ∨ c = '-' ∨ c = '%' := by
  fun_induction likeSample pattern <;> simp_all <;> tauto

/-- The sample of a pattern in lower case is in lower case. -/
theorem lower_likeSample (part : String) :
    lower (String.ofList (likeSample (lower part).toList)) =
      String.ofList (likeSample (lower part).toList) := by
  refine Text.lower_of_isLower fun c hc => ?_
  rw [String.toList_ofList] at hc
  rcases mem_likeSample hc with hmem | rfl | rfl
  · rw [lower, String.toList_ofList] at hmem
    exact Text.isLower_of_mem_lowerChars hmem
  · decide
  · decide

/-- A pattern with a wildcard matches a value that does not hold it. -/
theorem exists_ilike_not_contains {part : String} (h : ∃ c ∈ part.toList, c ∈ likeWildcards) :
    ∃ value, ilike ("%" ++ part ++ "%") value = true ∧
      contains (lower value) (lower part) = false := by
  refine ⟨String.ofList (likeSample (lower part).toList), ?_, ?_⟩
  · rw [ilike, lower_containing, lower_likeSample, String.toList_ofList, likeChars_percent_iff]
    exact ⟨[], _, rfl, likeChars_likeSample _⟩
  · rw [lower_likeSample, Bool.eq_false_iff, Ne, Text.contains_iff, String.toList_ofList]
    intro hinfix
    have heq := hinfix.eq_of_length_le (length_likeSample_le _)
    obtain ⟨c, hc, hwildcard⟩ := h
    have hmem := (Text.mem_lower_iff (isMark_of_mem_likeWildcards c hwildcard)).2 hc
    exact eq_likeSample_iff.1 heq c hmem hwildcard

/-! ### Values that hold the part -/

/-- A pattern without a backslash matches itself. -/
theorem likeChars_append_self {cs : List Char} (h : '\\' ∉ pattern) (rest : List Char)
    (hrest : likeChars rest cs = true) : likeChars (pattern ++ rest) (pattern ++ cs) = true := by
  induction pattern with
  | nil => exact hrest
  | cons c pattern ih =>
    obtain ⟨hc, hpattern⟩ := not_or.1 (List.mem_cons.not.1 h)
    by_cases hwildcard : c ∈ likeWildcards
    · obtain rfl | rfl : c = '%' ∨ c = '_' := by
        simpa [likeWildcards, Ne.symm hc] using hwildcard
      · exact (likeChars_percent_iff _).2 ⟨['%'], _, rfl, ih hpattern⟩
      · exact ih hpattern
    · rw [List.cons_append, List.cons_append, likeChars_cons hwildcard, ih hpattern,
        beq_self_eq_true, Bool.and_self]

/-- A pattern without a backslash matches what holds it. -/
theorem ilike_of_contains {part : String} (h : '\\' ∉ part.toList) {value : String}
    (hvalue : contains (lower value) (lower part) = true) :
    ilike ("%" ++ part ++ "%") value = true := by
  obtain ⟨before, after, hafter⟩ := Text.contains_iff.1 hvalue
  have hlower : '\\' ∉ (lower part).toList := fun hmem =>
    h ((Text.mem_lower_iff (isMark_of_mem_likeWildcards _ (by decide))).1 hmem)
  rw [ilike, lower_containing, ← hafter, List.append_assoc, likeChars_percent_iff]
  exact ⟨before, _, rfl, likeChars_append_self hlower ['%'] (likeChars_closing after)⟩

/-- The pattern for a part, and what it matches: the values that hold the part, when there is no
wildcard in it, and only then. Without a backslash in the part no such value is missed. -/
theorem containsPattern_spec (part : String) (bindings : Bindings) :
    containsPattern part bindings = .ok (bindings.bind ("%" ++ part ++ "%")) ∧
    ((∀ value, ilike ("%" ++ part ++ "%") value = contains (lower value) (lower part)) ↔
      ∀ c ∈ part.toList, c ∉ likeWildcards) ∧
    ('\\' ∉ part.toList → ∀ value, contains (lower value) (lower part) = true →
      ilike ("%" ++ part ++ "%") value = true) := by
  refine ⟨rfl, ⟨?_, ilike_containing⟩, fun h _ => ilike_of_contains h⟩
  intro h
  by_contra! hwildcard
  obtain ⟨value, hmatch, hmissing⟩ := exists_ilike_not_contains hwildcard
  rw [h, hmissing] at hmatch
  cases hmatch

/-- The value 1000 is found by the pattern for the part `100%`, which it does not hold. -/
theorem containsPattern_hundred_percent :
    containsPattern "100%" ⟨"fp", []⟩ = .ok (":fp_0", ⟨"fp", [("fp_0", .text "%100%%")]⟩) ∧
      ilike "%100%%" "1000" = true ∧ contains (lower "1000") (lower "100%") = false := by
  refine ⟨rfl, by decide +kernel, by decide +kernel⟩

end ListingFilter.Sql
