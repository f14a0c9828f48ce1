import Mathlib.Data.List.Infix
import ListingFilter.Proofs.LowerCase
/-!
# Patterns of a search

Free text is looked for by a LIKE pattern that ignores case, or by a regular expression. A text
without wildcards between two `%` matches what holds it. Of the regular expressions only those are
needed here whose characters stand for themselves, with or without an anchor at either end: they
match what holds their body, at the start or at the end if they are anchored there.
-/

namespace ListingFilter.Sql

open Text (capitalSigma contains lower)

/-! ### LIKE -/

/-- Whether a LIKE pattern matches all of `cs`: `%` stands for any run of characters, `_` for one,
and a backslash takes the meaning from the character after it. -/
def likeChars : List Char → List Char → Bool
  | [], cs => cs.isEmpty
  | '%' :: pattern, cs => cs.tails.any (likeChars pattern)
  | '_' :: _, [] => false
  | '_' :: pattern, _ :: cs => likeChars pattern cs
  | ['\\'], _ => false
  | '\\' :: _ :: _, [] => false
  | '\\' :: c :: pattern, d :: cs => c == d && likeChars pattern cs
  | _ :: _, [] => false
  | c :: pattern, d :: cs => c == d && likeChars pattern cs

/-- Whether a LIKE pattern matches a value when case is ignored. -/
def ilike (pattern value : String) : Bool :=
  likeChars (lower pattern).toList (lower value).toList

def likeWildcards : List Char := ['%', '_', '\\']

section Like

variable {c : Char} {body cs : List Char}

theorem likeChars_cons (h : c ∉ likeWildcards) (pattern : List Char) (d : Char) :
    likeChars (c :: pattern) (d :: cs) = (c == d && likeChars pattern cs) := by
  simp only [likeWildcards, List.mem_cons, List.not_mem_nil, or_false, not_or] at h
  rw [likeChars] <;> simp_all

theorem likeChars_cons_nil (h : c ∉ likeWildcards) (pattern : List Char) :
    likeChars (c :: pattern) [] = false := by
  simp only [likeWildcards, List.mem_cons, List.not_mem_nil, or_false, not_or] at h
  rw [likeChars] <;> simp_all

/-- Characters that are no wildcards match themselves, and the pattern goes on after them. -/
theorem likeChars_append_iff (h : ∀ c ∈ body, c ∉ likeWildcards) (pattern : List Char) :
    likeChars (body ++ pattern) cs = true ↔
      ∃ rest, cs = body ++ rest ∧ likeChars pattern rest = true := by
  induction body generalizing cs with
  | nil => simp
  | cons c body ih =>
    have hc := h c List.mem_cons_self
    have hbody : ∀ d ∈ body, d ∉ likeWildcards := fun d hd => h d (List.mem_cons_of_mem c hd)
    cases cs with
    | nil => simp [likeChars_cons_nil hc]
    | cons d cs =>
      rw [List.cons_append, likeChars_cons hc, Bool.and_eq_true, beq_iff_eq, ih hbody]
      constructor
      · rintro ⟨rfl, rest, rfl, hrest⟩
        exact ⟨rest, rfl, hrest⟩
      · rintro ⟨rest, heq, hrest⟩
        obtain ⟨rfl, rfl⟩ := List.cons.inj heq
        exact ⟨rfl, rest, rfl, hrest⟩

theorem likeChars_percent_iff (pattern : List Char) :
    likeChars ('%' :: pattern) cs = true ↔
      ∃ before after, cs = before ++ after ∧ likeChars pattern after = true := by
  rw [likeChars, List.any_eq_true]
  constructor
  · rintro ⟨after, hsuffix, hmatch⟩
    obtain ⟨before, rfl⟩ := (List.mem_tails _ _).1 hsuffix
    exact ⟨before, after, rfl, hmatch⟩
  · rintro ⟨before, after, rfl, hmatch⟩
    exact ⟨after, (List.mem_tails _ _).2 (List.suffix_append _ _), hmatch⟩

theorem likeChars_closing (cs : List Char) : likeChars ['%'] cs = true :=
  (likeChars_percent_iff []).2 ⟨cs, [], (List.append_nil cs).symm, rfl⟩

/-- Between two `%`, characters that are no wildcards match what holds them. -/
theorem likeChars_containing_iff (h : ∀ c ∈ body, c ∉ likeWildcards) :
    likeChars ('%' :: (body ++ ['%'])) cs = true ↔ body <:+: cs := by
  rw [likeChars_percent_iff]
  constructor
  · rintro ⟨before, after, rfl, hmatch⟩
    obtain ⟨rest, rfl, -⟩ := (likeChars_append_iff h ['%']).1 hmatch
    exact ⟨before, rest, List.append_assoc before body rest⟩
  · rintro ⟨before, rest, rfl⟩
    exact ⟨before, body ++ rest, List.append_assoc before body rest,
      (likeChars_append_iff h ['%']).2 ⟨rest, rfl, likeChars_closing rest⟩⟩

end Like

theorem lower_containing (text : String) :
    (lower ("%" ++ text ++ "%")).toList = '%' :: ((lower text).toList ++ ['%']) := by
  have hcased : Text.casedRanges.has '%' = false := by decide +kernel
  have hignorable : Text.caseIgnorableRanges.has '%' = false := by decide +kernel
  have hback := Text.lowerChars_append_singleton rfl (by decide) hcased hignorable text.toList false
  have hfront : ∀ cs, Text.lowerChars false ('%' :: cs) = '%' :: Text.lowerChars false cs := by
    intro cs
    simp only [Text.lowerChars, hignorable, hcased]
    rfl
  rw [lower, lower, String.toList_ofList, String.toList_ofList, ← hback, ← hfront]
  simp

theorem isMark_of_mem_likeWildcards : ∀ c ∈ likeWildcards, Text.IsMark c := by
  simp [likeWildcards, Text.IsMark]

/-- The pattern for a text without wildcards matches the values that hold the text, if both are in
lower case. -/
theorem ilike_containing {text : String} (h : ∀ c ∈ text.toList, c ∉ likeWildcards)
    (value : String) : ilike ("%" ++ text ++ "%") value = contains (lower value) (lower text) := by
  have hlower : ∀ c ∈ (lower text).toList, c ∉ likeWildcards := fun c hc hwildcard =>
    h c ((Text.mem_lower_iff (isMark_of_mem_likeWildcards c hwildcard)).1 hc) hwildcard
  rw [Bool.eq_iff_iff, ilike, lower_containing, likeChars_containing_iff hlower, Text.contains_iff]

/-! ### Regular expressions -/

/-- The characters that mean something else in a regular expression. -/
def regexpMarks : List Char :=
  ['.', '[', ']', '(', ')', '{', '}', '*', '+', '?', '|', '\\', '^', '$']

/-- A regular expression whose characters stand for themselves, between its anchors. -/
structure LiteralPattern where
  /-- It begins with `^`. -/
  atStart : Bool
  body : String
  /-- It ends with `$`. -/
  atEnd : Bool
  literal : ∀ c ∈ body.toList, c ∉ regexpMarks

namespace LiteralPattern

def text (pattern : LiteralPattern) : String :=
  (if pattern.atStart then "^" else "") ++ pattern.body ++ (if pattern.atEnd then "$" else "")

def IsAnchored (pattern : LiteralPattern) : Prop :=
  pattern.atStart = true ∨ pattern.atEnd = true

/-- The body stands in the value, at the start or at the end of it if the pattern says so. Case
counts. -/
def Matches (pattern : LiteralPattern) (value : String) : Prop :=
  ∃ before after, value.toList = before ++ pattern.body.toList ++ after ∧
    (pattern.atStart = true → before = []) ∧ (pattern.atEnd = true → after = [])

variable {pattern : LiteralPattern}

theorem Matches.isInfix {value : String} (h : pattern.Matches value) :
    pattern.body.toList <:+: value.toList := by
  obtain ⟨before, after, hvalue, -⟩ := h
  exact ⟨before, after, hvalue.symm⟩

theorem text_of_not_isAnchored (h : ¬ pattern.IsAnchored) : pattern.text = pattern.body := by
  obtain ⟨hstart, hend⟩ := not_or.1 h
  simp [text, hstart, hend]

/-- A pattern with an anchor holds the mark of it. -/
theorem anchor_mem_text (h : pattern.IsAnchored) :
    '^' ∈ pattern.text.toList ∨ '$' ∈ pattern.text.toList := by
  rcases h with hstart | hend
  · exact .inl (by simp [text, hstart])
  · exact .inr (by simp [text, hend])

end LiteralPattern

end ListingFilter.Sql
