import Mathlib.Data.List.Infix
import ListingFilter.Sql.Quoted
/-!
# Literals that are read back

A string literal is read from its opening mark: two marks inside it stand for one, and a mark that
no other mark follows closes it. `scan?_eq_some_iff` says what is read, `quoteValue_readsBack` that
the literal of a value is read as the text of the value, whatever marks the text holds and whatever
follows the literal.
-/

namespace ListingFilter.Sql

/-! ### The scanner -/

/-- What is read after an opening mark: the characters up to the closing mark, and those after
it. -/
def scanBody? : List Char → Option (List Char × List Char)
  | [] => none
  | '\'' :: '\'' :: rest => (scanBody? rest).map fun read => ('\'' :: read.1, read.2)
  | '\'' :: rest => some ([], rest)
  | c :: rest => (scanBody? rest).map fun read => (c :: read.1, read.2)

/-- The text of the literal at the start of a statement, and what comes after the literal. -/
def scan? (sql : String) : Option (String × String) :=
  match sql.toList with
  | '\'' :: body => (scanBody? body).map fun read => (String.ofList read.1, String.ofList read.2)
  | _ => none

/-- The text does not begin with a mark. -/
def StartsPlainly (text : String) : Prop := text.toList.head? ≠ some '\''

variable {c : Char} {cs text read left rest : List Char}

theorem scanBody?_closing (h : rest.head? ≠ some '\'') :
    scanBody? ('\'' :: rest) = some ([], rest) := by
  cases rest with
  | nil => rfl
  | cons d rest =>
    have hd : d ≠ '\'' := fun hd => h (congrArg some hd)
    rw [scanBody?]
    simpa using hd

theorem scanBody?_cons (h : c ≠ '\'') :
    scanBody? (c :: cs) = (scanBody? cs).map fun read => (c :: read.1, read.2) := by
  rw [scanBody?] <;> simp_all

/-- A character is read from what stands for it. -/
theorem scanBody?_double (c : Char) (cs : List Char) :
    scanBody? (doubleMarks [c] ++ cs) = (scanBody? cs).map fun read => (c :: read.1, read.2) := by
  by_cases hmark : c = '\''
  · subst hmark
    rfl
  · rw [doubleMarks, List.flatMap_singleton, if_neg hmark]
    exact scanBody?_cons hmark

theorem doubleMarks_cons (c : Char) (cs : List Char) :
    doubleMarks (c :: cs) = doubleMarks [c] ++ doubleMarks cs := by
  rw [doubleMarks, doubleMarks, doubleMarks, List.flatMap_cons, List.flatMap_singleton]

/-- A text is read from what stands for it, and the literal goes on after it. -/
theorem scanBody?_doubleMarks_append (text cs : List Char) :
    scanBody? (doubleMarks text ++ cs) =
      (scanBody? cs).map fun read => (text ++ read.1, read.2) := by
  induction text with
  | nil => simp [doubleMarks]
  | cons c text ih =>
    rw [doubleMarks_cons, List.append_assoc, scanBody?_double, ih, Option.map_map]
    rfl

/-- What is read stands doubled before the closing mark, which no mark follows. -/
theorem eq_of_scanBody? (h : scanBody? cs = some (read, left)) :
    cs = doubleMarks read ++ '\'' :: left ∧ left.head? ≠ some '\'' := by
  fun_induction scanBody? cs generalizing read left with
  | case1 => cases h
  | case2 rest ih =>
    obtain ⟨later, hlater, heq⟩ := Option.map_eq_some_iff.1 h
    obtain ⟨rfl, rfl⟩ := Prod.mk.inj heq
    obtain ⟨rfl, hleft⟩ := ih hlater
    exact ⟨rfl, hleft⟩
  | case3 rest hrest =>
    obtain ⟨rfl, rfl⟩ := Prod.mk.inj (Option.some.inj h)
    refine ⟨rfl, fun hhead => ?_⟩
    obtain ⟨later, rfl⟩ := List.head?_eq_some_iff.1 hhead
    exact hrest later rfl
  | case4 c rest hdouble hclosing ih =>
    obtain ⟨later, hlater, heq⟩ := Option.map_eq_some_iff.1 h
    obtain ⟨rfl, rfl⟩ := Prod.mk.inj heq
    obtain ⟨rfl, hleft⟩ := ih hlater
    have hplain : doubleMarks [c] = [c] := by
      rw [doubleMarks, List.flatMap_singleton, if_neg hclosing]
    rw [doubleMarks_cons, hplain]
    exact ⟨rfl, hleft⟩

theorem scanBody?_eq_some_iff :
    scanBody? cs = some (read, left) ↔
      cs = doubleMarks read ++ '\'' :: left ∧ left.head? ≠ some '\'' := by
  refine ⟨eq_of_scanBody?, ?_⟩
  rintro ⟨rfl, hleft⟩
  rw [scanBody?_doubleMarks_append, scanBody?_closing hleft]
  simp

/-- A text that begins a literal is read whole, and nothing before the closing mark is left. -/
theorem whole_of_scanBody? (h : scanBody? (doubleMarks text ++ '\'' :: rest) = some (read, left)) :
    text <+: read ∧ left <:+ rest := by
  rw [scanBody?_doubleMarks_append] at h
  obtain ⟨⟨more, later⟩, hmore, heq⟩ := Option.map_eq_some_iff.1 h
  obtain ⟨rfl, rfl⟩ := Prod.mk.inj heq
  refine ⟨List.prefix_append text more, ?_⟩
  obtain ⟨hwritten, -⟩ := eq_of_scanBody? hmore
  cases hdoubled : doubleMarks more with
  | nil =>
    rw [hdoubled] at hwritten
    rw [(List.cons.inj hwritten).2]
  | cons c front =>
    rw [hdoubled] at hwritten
    rw [(List.cons.inj hwritten).2]
    exact (List.suffix_cons _ _).trans (List.suffix_append _ _)

/-! ### Literals -/

section Quote

variable {sql text read left rest : String}

theorem toList_quote_append (text rest : String) :
    (quote text ++ rest).toList = '\'' :: (doubleMarks text.toList ++ '\'' :: rest.toList) := by
  simp [quote]

/-- What is read is the text of a literal, and no mark follows the literal. -/
theorem scan?_eq_some_iff :
    scan? sql = some (text, rest) ↔ sql = quote text ++ rest ∧ StartsPlainly rest := by
  constructor
  · intro h
    rw [scan?] at h
    split at h
    next body hbody =>
      obtain ⟨⟨read, left⟩, hread, heq⟩ := Option.map_eq_some_iff.1 h
      obtain ⟨rfl, rfl⟩ := Prod.mk.inj heq
      obtain ⟨rfl, hleft⟩ := scanBody?_eq_some_iff.1 hread
      refine ⟨String.toList_injective ?_, by rwa [StartsPlainly, String.toList_ofList]⟩
      rw [hbody, toList_quote_append, String.toList_ofList, String.toList_ofList]
    next => cases h
  · rintro ⟨rfl, hrest⟩
    rw [scan?, toList_quote_append]
    simp only [scanBody?_eq_some_iff.2 ⟨rfl, hrest⟩, Option.map_some, String.ofList_toList]

/-- Whatever follows a literal, its text is read whole and nothing of it is left. -/
theorem whole_of_scan? (h : scan? (quote text ++ rest) = some (read, left)) :
    text.toList <+: read.toList ∧ left.toList <:+ rest.toList := by
  rw [scan?, toList_quote_append] at h
  obtain ⟨found, hfound, heq⟩ := Option.map_eq_some_iff.1 h
  obtain ⟨rfl, rfl⟩ := Prod.mk.inj heq
  rw [String.toList_ofList, String.toList_ofList]
  exact whole_of_scanBody? hfound

theorem quote_injective : Function.Injective quote := by
  intro text other h
  have hread : ∀ text, scan? (quote text) = some (text, "") := fun text =>
    scan?_eq_some_iff.2 ⟨String.append_empty.symm, by simp [StartsPlainly]⟩
  have hother := hread other
  rw [← h, hread] at hother
  exact (Prod.mk.inj (Option.some.inj hother)).1

end Quote

/-- The literal is read as the text. -/
structure ReadsAs (literal text : String) : Prop where
  /-- The scanner stops where the literal ends. -/
  stops : ∀ rest, StartsPlainly rest → scan? (literal ++ rest) = some (text, rest)
  /-- It stops no earlier, even if a mark follows the literal. -/
  whole : ∀ rest read left, scan? (literal ++ rest) = some (read, left) →
    text.toList <+: read.toList ∧ left.toList <:+ rest.toList

theorem readsAs_quote (text : String) : ReadsAs (quote text) text :=
  ⟨fun _ hrest => scan?_eq_some_iff.2 ⟨rfl, hrest⟩, fun _ _ _ => whole_of_scan?⟩

/-- Every value that has a text has a literal, which is read back as this text. Different texts have
different literals. -/
theorem quoteValue_readsBack :
    (∀ value text, value.display? = some text →
      ∃ literal, quoteValue value = .ok literal ∧ ReadsAs literal text) ∧
    (∀ value, value.display? = none → ∃ fault, quoteValue value = .error fault) ∧
    Function.Injective fun text : String => quoteValue (.text text) := by
  refine ⟨fun value text htext => ?_, fun value hnone => ?_, fun text other h => ?_⟩
  · exact ⟨quote text, by rw [quoteValue, htext], readsAs_quote text⟩
  · exact ⟨.numeralTooLong, by rw [quoteValue, hnone]⟩
  · exact quote_injective (Except.ok.inj h)

/-- Marks at both ends and next to each other. -/
example : scan? "'''it''''s''' AND 'x'" = some ("'it''s'", " AND 'x'") := by decide +kernel

end ListingFilter.Sql
