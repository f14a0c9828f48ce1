import Mathlib.Data.Nat.Basic
import ListingFilter.Keyword.Part
/-!
# Characters of filter terms

The grammar of terms rests on a few classes of characters: separators, quotation marks, symbols of
comparisons, and the characters of column names. This file says which of them are apart, that ASCII
texts are put into lower case letter by letter, and when trimming leaves a text alone.
-/

namespace ListingFilter

/-! ### Separators, quotation marks and symbols -/

theorem isQuoteMark_iff (c : Char) : isQuoteMark c = true ↔ c = '"' ∨ c = '\'' := by
  simp [isQuoteMark]

@[simp] theorem Comparison.ofSymbol?_symbol (comparison : Comparison) :
    Comparison.ofSymbol? comparison.symbol = some comparison := by
  cases comparison <;> rfl

/-- The characters that a column name may hold. -/
def isNameCharacter (c : Char) : Bool := c.isAlphanum || c == '_' || c == '-'

/-- A character of a column name neither separates parts nor quotes nor compares. -/
theorem isNameCharacter_plain {c : Char} (h : isNameCharacter c = true) :
    isSeparator c = false ∧ isQuoteMark c = false ∧ Comparison.ofSymbol? c = none := by
  have hne : ∀ d : Char, isNameCharacter d = false → c ≠ d := by
    rintro d hd rfl
    rw [h] at hd
    cases hd
  refine ⟨?_, ?_, ?_⟩
  · simp [isSeparator, hne ' ' rfl, hne '\t' rfl, hne '\n' rfl, hne '\r' rfl]
  · simp [isQuoteMark, hne '"' rfl, hne '\'' rfl]
  · simp [Comparison.ofSymbol?, hne '=' rfl, hne '~' rfl, hne '>' rfl, hne '<' rfl, hne ':' rfl]

theorem isNameCharacter_of_isColumnName {name : List Char} (h : isColumnName name = true) :
    ∀ c ∈ name, isNameCharacter c = true := by
  cases name with
  | nil => simp
  | cons first rest =>
    simp only [isColumnName, Bool.and_eq_true, Bool.or_eq_true, beq_iff_eq] at h
    intro c hc
    rcases List.mem_cons.1 hc with rfl | hc
    · rcases h.1 with halpha | rfl
      · simp [isNameCharacter, Char.isAlphanum, halpha]
      · rfl
    · simpa [isNameCharacter] using List.all_eq_true.1 h.2 c hc

/-! ### Lower case -/

theorem isUpper_iff {c : Char} : c.isUpper = true ↔ 65 ≤ c.toNat ∧ c.toNat ≤ 90 :=
  decide_eq_true_iff

theorem isLower_iff {c : Char} : c.isLower = true ↔ 97 ≤ c.toNat ∧ c.toNat ≤ 122 :=
  Bool.and_eq_true_iff.trans (and_congr decide_eq_true_iff decide_eq_true_iff)

theorem isAlpha_iff {c : Char} : c.isAlpha = true ↔ c.isUpper = true ∨ c.isLower = true :=
  Bool.or_eq_true_iff

/-- The characters of column names are ASCII and no blanks. -/
theorem toNat_of_isNameCharacter {c : Char} (h : isNameCharacter c = true) :
    45 ≤ c.toNat ∧ c.toNat ≤ 122 := by
  simp only [isNameCharacter, Char.isAlphanum, Bool.or_eq_true, beq_iff_eq, isAlpha_iff,
    isUpper_iff, isLower_iff, Char.isDigit_iff_toNat, Char.reduceToNat] at h
  rcases h with (((h | h) | h) | rfl) | rfl
  · omega
  · omega
  · omega
  · decide
  · decide

/-- A capital letter is put 32 places further, and any other character stays as it is. -/
theorem toLower_cases (c : Char) :
    (c.isUpper = true ∧ c.toLower.toNat = c.toNat + 32) ∨ c.toLower = c := by
  by_cases hupper : c.isUpper = true
  · have hmoved : c.toLower.val = c.val + 32 :=
      congrArg Char.val (dif_pos (of_decide_eq_true hupper) : c.toLower = _)
    have hbounds := isUpper_iff.1 hupper
    refine .inl ⟨hupper, ?_⟩
    calc c.toLower.toNat
      _ = (c.val + 32).toNat := congrArg UInt32.toNat hmoved
      _ = (c.toNat + 32) % 2 ^ 32 := UInt32.toNat_add _ _
      _ = c.toNat + 32 := Nat.mod_eq_of_lt (by omega)
  · exact .inr (dif_neg fun h => hupper (decide_eq_true h))

/-- A letter stays a letter in lower case, and any other character stays as it is. -/
theorem toLower_isAlpha_or_eq (c : Char) :
    (c.isAlpha = true ∧ c.toLower.isAlpha = true) ∨ c.toLower = c := by
  refine (toLower_cases c).imp_left fun ⟨hupper, hnat⟩ => ?_
  have hbounds := isUpper_iff.1 hupper
  exact ⟨isAlpha_iff.2 (.inl hupper), isAlpha_iff.2 (.inr (isLower_iff.2 (by omega)))⟩

theorem toLower_toLower (c : Char) : c.toLower.toLower = c.toLower := by
  rcases toLower_cases c with ⟨hupper, hnat⟩ | hsame
  · rcases toLower_cases c.toLower with ⟨hagain, -⟩ | hsame
    · have hbounds := isUpper_iff.1 hupper
      have hbounds' := isUpper_iff.1 hagain
      omega
    · exact hsame
  · rw [hsame, hsame]

theorem isColumnName_map_toLower {name : List Char} (h : isColumnName name = true) :
    isColumnName (name.map Char.toLower) = true := by
  cases name with
  | nil => cases h
  | cons first rest =>
    simp only [isColumnName, List.map_cons, Bool.and_eq_true, List.all_map, List.all_eq_true,
      Function.comp] at h ⊢
    refine ⟨?_, fun c hc => ?_⟩
    · rcases toLower_isAlpha_or_eq first with halpha | heq
      · simp [halpha.2]
      · rw [heq]
        exact h.1
    · rcases toLower_isAlpha_or_eq c with halpha | heq
      · simp [Char.isAlphanum, halpha.2]
      · rw [heq]
        exact h.2 c hc

namespace Text

/-- An ASCII text is put into lower case letter by letter. -/
theorem lowerChars_of_ascii {cs : List Char} (h : ∀ c ∈ cs, c.toNat < 128) (afterCased : Bool) :
    lowerChars afterCased cs = cs.map Char.toLower := by
  induction cs generalizing afterCased with
  | nil => rfl
  | cons c cs ih =>
    have hc : c.toNat < 128 := h c List.mem_cons_self
    have hsigma : c.toNat ≠ 0x3A3 := by omega
    simp only [lowerChars, if_neg hsigma, lowerChar, if_pos hc, List.map_cons,
      List.singleton_append, ih fun d hd => h d (List.mem_cons_of_mem c hd)]

/-- A text of name characters in lower case is its own lower-case form. -/
theorem lower_eq_self {name : String} (h : ∀ c ∈ name.toList, isNameCharacter c = true)
    (hlower : name.toList.map Char.toLower = name.toList) : lower name = name := by
  have hascii : ∀ c ∈ name.toList, c.toNat < 128 := by
    intro c hc
    have := (toNat_of_isNameCharacter (h c hc)).2
    omega
  rw [lower, lowerChars_of_ascii hascii, hlower, String.ofList_toList]

/-- An ASCII character that has no case stays in a text that is put into lower case. -/
theorem mem_lower {text : String} {c : Char} (h : c ∈ text.toList) (hascii : c.toNat < 128)
    (hlower : c.toLower = c) : c ∈ (lower text).toList := by
  have hkeep : ∀ {cs : List Char}, c ∈ cs → ∀ afterCased, c ∈ lowerChars afterCased cs := by
    intro cs hc
    induction cs with
    | nil => cases hc
    | cons d cs ih =>
      intro afterCased
      rw [lowerChars]
      rcases List.mem_cons.1 hc with rfl | hc
      · have hsigma : c.toNat ≠ 0x3A3 := by omega
        simp [if_neg hsigma, lowerChar, if_pos hascii, hlower]
      · exact List.mem_append_right _ (ih hc _)
  rw [lower, String.toList_ofList]
  exact hkeep h false

/-! ### Blanks -/

theorem isBlank_eq_false {c : Char} (h : 0x20 < c.toNat) (h' : c.toNat < 0x85) :
    isBlank c = false := by
  simp only [isBlank, blankRanges, CodeRanges.has_cons, CodeRanges.has_nil, Bool.or_eq_false_iff,
    Bool.and_eq_false_iff, decide_eq_false_iff_not, and_true]
  omega

theorem isBlank_of_isNameCharacter {c : Char} (h : isNameCharacter c = true) :
    isBlank c = false := by
  have := toNat_of_isNameCharacter h
  exact isBlank_eq_false (by omega) (by omega)

theorem isBlank_of_isQuoteMark {c : Char} (h : isQuoteMark c = true) : isBlank c = false := by
  rcases (isQuoteMark_iff c).1 h with rfl | rfl <;> exact isBlank_eq_false (by decide) (by decide)

/-- A text without a blank at its ends is trimmed already. -/
theorem trim_eq_self {text : String} (hfirst : ∀ c ∈ text.toList.head?, isBlank c = false)
    (hlast : ∀ c ∈ text.toList.getLast?, isBlank c = false) : trim text = text := by
  have hkeep : ∀ {cs : List Char}, (∀ c ∈ cs.head?, isBlank c = false) →
      cs.dropWhile isBlank = cs := by
    intro cs h
    cases cs with
    | nil => rfl
    | cons c cs => exact List.dropWhile_cons_of_neg (by simp [h c rfl])
  have hend : text.toList.reverse.dropWhile isBlank = text.toList.reverse :=
    hkeep (by rwa [List.head?_reverse])
  rw [trim, hkeep hfirst, dropBlanksAtEnd, hend, List.reverse_reverse, String.ofList_toList]

/-! ### Codes -/

theorem toNat_ofNat {n : Nat} (h : n.isValidChar) : (Char.ofNat n).toNat = n := by
  rw [Char.ofNat, dif_pos h]
  rfl

theorem ofNat_of_not_isValidChar {n : Nat} (h : ¬ n.isValidChar) :
    Char.ofNat n = Char.ofNat 0 := by
  rw [Char.ofNat, dif_neg h]
  rfl

/-! ### Octets -/

/-- The ASCII character that an octet is. -/
def asciiChar? (octet : UInt8) : Option Char :=
  if octet.toNat < 0x80 then some (Char.ofNat octet.toNat) else none

/-- The characters of an ASCII text, read off its octets. -/
def asciiChars? (text : String) : Option (List Char) :=
  text.toByteArray.data.toList.mapM asciiChar?

theorem utf8EncodeChar_of_asciiChar? {octet : UInt8} {c : Char} (h : asciiChar? octet = some c) :
    String.utf8EncodeChar c = [octet] := by
  simp only [asciiChar?] at h
  split_ifs at h with hascii
  obtain rfl := Option.some.inj h
  have hvalid : octet.toNat.isValidChar := by
    left
    omega
  have hval : (Char.ofNat octet.toNat).val.toNat = octet.toNat := by
    rw [Char.toNat_val, toNat_ofNat hvalid]
  rw [String.utf8EncodeChar, hval, if_pos (by omega), UInt8.ofNat_toNat]

theorem flatMap_utf8EncodeChar {octets : List UInt8} {cs : List Char}
    (h : octets.mapM asciiChar? = some cs) : cs.flatMap String.utf8EncodeChar = octets := by
  induction octets generalizing cs with
  | nil =>
    obtain rfl : [] = cs := by simpa using h
    rfl
  | cons octet octets ih =>
    rw [List.mapM_cons] at h
    obtain ⟨c, hc, h⟩ := Option.bind_eq_some_iff.1 h
    obtain ⟨rest, hrest, h⟩ := Option.bind_eq_some_iff.1 h
    obtain rfl := Option.some.inj h
    rw [List.flatMap_cons, utf8EncodeChar_of_asciiChar? hc, ih hrest]
    rfl

/-- What holds of the octets of an ASCII text holds of its characters. The kernel decodes a text far
more slowly than it compares octets, so long texts are checked by their octets. -/
theorem of_asciiChars? {text : String} {holds : List Char → Prop}
    (h : ∃ cs ∈ asciiChars? text, holds cs) : holds text.toList := by
  obtain ⟨cs, hcs, hholds⟩ := h
  have hencode : cs.utf8Encode = text.toByteArray := by
    apply ByteArray.ext
    rw [List.utf8Encode, flatMap_utf8EncodeChar hcs, List.data_toByteArray, Array.toArray_toList]
  rw [← String.toByteArray_ofList, String.toByteArray_inj] at hencode
  rwa [← hencode, String.toList_ofList]

end Text

end ListingFilter
