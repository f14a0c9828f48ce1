import ListingFilter.Proofs.Splitting
/-!
# Terms that are put together

Two terms with a blank between them are split like each of them alone, if the first one closes the
quotation marks that it opens. What the two have in common is settled by the first: an option that
it sets is not set again. The defaults are those that are missing from both terms together.

The scanner reads the second term from where the first one leaves it. Outside a quotation the blank
completes the part that is pending, and takes the scanner between two parts, where every term
begins.
-/

namespace ListingFilter

/-! ### The parts -/

namespace Scanner

/-- The scanner stands in a quoted body. -/
def isQuoting : Scanner → Bool
  | quoted _ _ _ => true
  | between | inside _ _ => false

/-- The rest of the characters is read from where the scanner stands after the first ones. -/
theorem parts_append (scanner : Scanner) (front back : List Char) :
    scanner.parts (front ++ back) =
      (scanner.run front).1 ++ (scanner.run front).2.parts back := by
  induction front generalizing scanner with
  | nil => rfl
  | cons c front ih => simp [parts_cons, run, ih, List.append_assoc]

/-- Outside a quotation a separator completes what the end of the term would complete. -/
theorem parts_cons_of_separator {scanner : Scanner} (h : scanner.isQuoting = false) {c : Char}
    (hc : isSeparator c = true) (rest : List Char) :
    scanner.parts (c :: rest) = scanner.finish.toList ++ between.parts rest := by
  cases scanner with
  | between => exact parts_cons_of_step (step_between_separator hc) rest
  | inside lead body => exact parts_cons_of_step_some (step_inside_separator lead body hc) rest
  | quoted mark lead body => cases h

end Scanner

/-- The term closes every quotation mark that it opens. -/
def EndsOutsideQuotes (term : String) : Prop :=
  (Scanner.between.run term.toList).2.isQuoting = false

instance (term : String) : Decidable (EndsOutsideQuotes term) :=
  inferInstanceAs (Decidable (_ = false))

/-- The parts of both terms are found. -/
theorem Part.ofTerm_append {first : String} (h : EndsOutsideQuotes first) (second : String) :
    Part.ofTerm (first ++ " " ++ second) = Part.ofTerm first ++ Part.ofTerm second := by
  have hblank : (first ++ " " ++ second).toList = first.toList ++ ' ' :: second.toList := by simp
  calc Part.ofTerm (first ++ " " ++ second)
      = Scanner.between.parts (first ++ " " ++ second).toList := rfl
    _ = (Scanner.between.run first.toList).1 ++
        ((Scanner.between.run first.toList).2.finish.toList ++
          Scanner.between.parts second.toList) := by
      rw [hblank, Scanner.parts_append, Scanner.parts_cons_of_separator h (by rfl)]
    _ = Part.ofTerm first ++ Part.ofTerm second := (List.append_assoc _ _ _).symm

/-! ### The keywords -/

/-- The keywords of two terms: an option that the first one sets is not set by the second. -/
def joinKeywords (front back : List Keyword) : List Keyword :=
  front ++ back.filter fun keyword => !keyword.repeats front

theorem Keyword.repeats_append (keyword : Keyword) (front back : List Keyword) :
    keyword.repeats (front ++ back) = (keyword.repeats front || keyword.repeats back) := by
  rw [Keyword.repeats, Keyword.repeats, Keyword.repeats]
  cases keyword.option? with
  | none => rfl
  | some option => exact setsColumn_append front back option

/-- A keyword on a column that is not set before is no repetition. -/
theorem Keyword.repeats_eq_false {keyword : Keyword} {column : String} {before : List Keyword}
    (hcolumn : keyword.column = some column) (h : setsColumn before column = false) :
    keyword.repeats before = false := by
  rw [Keyword.repeats]
  cases hoption : keyword.option? with
  | none => rfl
  | some option =>
    obtain rfl : option = column :=
      Option.some.inj ((Keyword.option?_eq_some_iff.1 hoption).1.symm.trans hcolumn)
    exact h

theorem withoutRepeats_append (before front back : List Keyword) :
    withoutRepeats before (front ++ back) =
      withoutRepeats before front ++ withoutRepeats (before ++ front) back := by
  induction front generalizing before with
  | nil => simp [withoutRepeats]
  | cons keyword front ih =>
    rw [List.cons_append, withoutRepeats, withoutRepeats, ih, List.append_assoc,
      List.singleton_append]
    split_ifs <;> rfl

/-- More keywords before others drop more of them. -/
theorem withoutRepeats_append_left (front before keywords : List Keyword) :
    withoutRepeats (front ++ before) keywords =
      (withoutRepeats before keywords).filter fun keyword => !keyword.repeats front := by
  induction keywords generalizing before with
  | nil => rfl
  | cons keyword rest ih =>
    rw [withoutRepeats, withoutRepeats, Keyword.repeats_append, List.append_assoc, ih]
    cases hbefore : keyword.repeats before <;> cases hfront : keyword.repeats front <;>
      simp [hfront]

/-- Without the repetitions the same columns are set. -/
theorem setsColumn_withoutRepeats (before keywords : List Keyword) (column : String) :
    setsColumn (before ++ withoutRepeats before keywords) column =
      setsColumn (before ++ keywords) column := by
  induction keywords generalizing before with
  | nil => rfl
  | cons keyword rest ih =>
    have hrest := ih (before ++ [keyword])
    rw [List.append_assoc, List.append_assoc, List.singleton_append, List.singleton_append]
      at hrest
    rw [← hrest, withoutRepeats]
    split_ifs with hrepeats
    · -- what is dropped is on a column that is set before
      rw [setsColumn_append, setsColumn_append, setsColumn_cons]
      cases hset : setsColumn before column with
      | true => rfl
      | false =>
        have hne : keyword.column ≠ some column := fun hcolumn => by
          simp [Keyword.repeats_eq_false hcolumn hset] at hrepeats
        simp [beq_false_of_ne hne]
    · rfl

theorem Keyword.repeats_withoutRepeats (keyword : Keyword) (keywords : List Keyword) :
    keyword.repeats (withoutRepeats [] keywords) = keyword.repeats keywords := by
  rw [Keyword.repeats, Keyword.repeats]
  cases keyword.option? with
  | none => rfl
  | some option => exact setsColumn_withoutRepeats [] keywords option

theorem dropRepeats_append (front back : List Keyword) :
    dropRepeats [] (front ++ back) =
      joinKeywords (dropRepeats [] front) (dropRepeats [] back) := by
  simp only [dropRepeats_eq_withoutRepeats, joinKeywords, Keyword.repeats_withoutRepeats]
  rw [withoutRepeats_append, List.nil_append]
  have hback := withoutRepeats_append_left front [] back
  rw [List.append_nil] at hback
  rw [hback]

/-- The keywords written in both terms, if all of them can be read. -/
theorem writtenKeywords_append (clock : Clock) {first : String} (h : EndsOutsideQuotes first)
    (second : String) :
    writtenKeywords clock (first ++ " " ++ second) = (do
      let front ← writtenKeywords clock first
      let back ← writtenKeywords clock second
      return joinKeywords front back) := by
  simp only [writtenKeywords]
  rw [Part.ofTerm_append h, List.mapM_append]
  cases (Part.ofTerm first).mapM (Part.keyword clock) with
  | error fault => rfl
  | ok front =>
    cases (Part.ofTerm second).mapM (Part.keyword clock) with
    | error fault => rfl
    | ok back => exact congrArg Except.ok (dropRepeats_append front back)

/-! ### The defaults -/

/-- The columns of which one is enough: its own, and for an order also that of a descending one. -/
def Keyword.alternatives (default : Keyword) : List String :=
  if default.column = some "sort" then ["sort", "sort-reverse"] else default.column.toList

/-- No keyword is on a column that the default stands for. -/
def Keyword.isMissingFrom (default : Keyword) (keywords : List Keyword) : Bool :=
  default.alternatives.all fun column => !setsColumn keywords column

/-- What a term is given that leaves everything to its defaults. -/
def allDefaults (defaultSort : Option String) : List Keyword := defaultKeywords defaultSort []

/-- The defaults of some keywords are those that are missing from them. -/
theorem defaultKeywords_eq_filter (defaultSort : Option String) (keywords : List Keyword) :
    defaultKeywords defaultSort keywords =
      (allDefaults defaultSort).filter (·.isMissingFrom keywords) := by
  have hnone : ∀ column, setsColumn [] column = false := fun _ => rfl
  simp only [allDefaults, defaultKeywords, List.filter_append]
  refine congrArg₂ _ (congrArg₂ _ ?_ ?_) ?_
  · cases hset : setsColumn keywords "first" <;>
      simp [hnone, Keyword.isMissingFrom, Keyword.alternatives, hset]
  · cases hset : setsColumn keywords "rows" <;>
      simp [hnone, Keyword.isMissingFrom, Keyword.alternatives, hset]
  · cases defaultSort with
    | none => rfl
    | some field =>
      by_cases hempty : field = ""
      · simp [hempty]
      · cases hset : setsColumn keywords "sort" <;>
          cases hreverse : setsColumn keywords "sort-reverse" <;>
          simp [hnone, Keyword.isMissingFrom, Keyword.alternatives, hempty, hset, hreverse]

/-- The keywords of two terms with a blank between them are those that are written in the first,
those that are written in the second but for what the first sets already, and the defaults that are
missing from both. A fault is that of the first term, or else of the second. -/
theorem split_append {first : String} (h : EndsOutsideQuotes first) (clock : Clock)
    (second : String) (defaultSort : Option String) :
    split clock (first ++ " " ++ second) defaultSort = (do
      let front ← writtenKeywords clock first
      let back ← writtenKeywords clock second
      return joinKeywords front back ++
        (allDefaults defaultSort).filter (·.isMissingFrom (joinKeywords front back))) := by
  simp only [split, ← defaultKeywords_eq_filter]
  rw [writtenKeywords_append clock h]
  cases writtenKeywords clock first with
  | error fault => rfl
  | ok front =>
    cases writtenKeywords clock second with
    | error fault => rfl
    | ok back => rfl

/-- A quotation that is closed, a mark inside a word, a pending part, and a second term with a
setting of its own, one that is repeated and a quotation that stays open. -/
theorem split_append_repeated_setting :
    let first := "first=2 name~\"a b\" x'y"
    let second := "or first=3 rows=5 \"c "
    EndsOutsideQuotes first ∧ ¬ EndsOutsideQuotes second ∧
      writtenKeywords (.whole 0) second = .ok
        [{ text := "or", type := .string },
          { text := "3", column := some "first", type := .integer, integer := 3 },
          { text := "5", column := some "rows", type := .integer, integer := 5 },
          { text := "c ", relation := .approx, type := .string, quoted := true }] ∧
      split (.whole 0) (first ++ " " ++ second) (some "name") = .ok
        [{ text := "2", column := some "first", type := .integer, integer := 2 },
          { text := "a b", column := some "name", relation := .column .approx, type := .string,
            quoted := true },
          { text := "x'y", relation := .approx, type := .string },
          { text := "or", type := .string },
          { text := "5", column := some "rows", type := .integer, integer := 5 },
          { text := "c ", relation := .approx, type := .string, quoted := true },
          { text := "name", column := some "sort", type := .string }] := by
  intro first second
  have h : EndsOutsideQuotes first := by decide +kernel
  have hsplit := split_append h (.whole 0) second (some "name")
  refine ⟨h, by decide +kernel, eq_ok_of_toOption (by decide +kernel), eq_ok_of_toOption ?_⟩
  exact (congrArg Except.toOption hsplit).trans (by decide +kernel)

end ListingFilter
