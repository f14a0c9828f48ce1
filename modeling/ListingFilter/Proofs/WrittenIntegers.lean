import Mathlib.Algebra.Group.Nat.Defs
import Mathlib.Data.List.Basic
import ListingFilter.Keyword.Control
import ListingFilter.Keyword.Typing
import ListingFilter.Proofs.Characters
/-!
# Integers that are written and read back

The decimal text of an integer is a numeral: an optional minus and ASCII digits. Within the limit of
digits it reads back as the integer, and so it is typed on every column, whatever the clock shows.
-/

namespace ListingFilter

open Text (digitValue? isDigitSymbol)

/-! ### Digits -/

namespace Text

theorem toNat_of_isDigit {c : Char} (h : c.isDigit = true) : 48 ≤ c.toNat ∧ c.toNat ≤ 57 :=
  Char.isDigit_iff_toNat.1 h

theorem toLower_of_isDigit {c : Char} (h : c.isDigit = true) : c.toLower = c := by
  rcases toLower_cases c with ⟨hupper, -⟩ | hsame
  · have hletter := isUpper_iff.1 hupper
    have hdigit := toNat_of_isDigit h
    omega
  · exact hsame

theorem digitValue?_of_isDigit {c : Char} (h : c.isDigit = true) :
    digitValue? c = some (c.toNat - 48) := by
  simp [digitValue?, zeroCodes, toNat_of_isDigit h]

theorem isDigit_of_isDigit {c : Char} (h : c.isDigit = true) : isDigit c = true := by
  simp [isDigit, digitValue?_of_isDigit h]

end Text

namespace Numeral

/-- ASCII digits stand for the number that they spell. -/
theorem value_eq_ofDigitChars {ds : List Char} (h : ∀ c ∈ ds, c.isDigit = true) :
    value ds = Nat.ofDigitChars 10 ds 0 := by
  rw [value, Nat.ofDigitChars_eq_foldl]
  apply List.foldl_ext
  intro n c hc
  rw [Text.digitValue?_of_isDigit (h c hc)]
  rfl

theorem isDigit_of_mem_toDigits {n : Nat} {c : Char} (h : c ∈ Nat.toDigits 10 n) :
    c.isDigit = true :=
  Nat.isDigit_of_mem_toDigits (by decide) (by decide) h

theorem toDigits_injective : Function.Injective (Nat.toDigits 10) := by
  intro m n h
  rw [← Nat.ofDigitChars_ten_toDigits (n := m), h, Nat.ofDigitChars_ten_toDigits]

theorem toDigits_eq_cons (n : Nat) :
    ∃ d ds, Nat.toDigits 10 n = d :: ds ∧ d.isDigit = true := by
  obtain ⟨d, ds, hds⟩ := List.exists_cons_of_ne_nil (Nat.toDigits_ne_nil (n := n) (b := 10))
  exact ⟨d, ds, hds, isDigit_of_mem_toDigits (hds ▸ List.mem_cons_self)⟩

theorem toList_toString (n : Int) :
    (toString n).toList = (if n < 0 then ['-'] else []) ++ Nat.toDigits 10 n.natAbs := by
  rw [Int.toString_eq_repr, Int.repr_eq_if]
  by_cases hn : 0 ≤ n
  · have hnot : ¬ n < 0 := by omega
    have habs : n.toNat = n.natAbs := by omega
    simp [hn, hnot, habs, Nat.toList_repr]
  · have hneg : n < 0 := by omega
    have habs : (-n).toNat = n.natAbs := by omega
    simp [hn, hneg, habs, Nat.toList_repr]

theorem mem_toString {n : Int} {c : Char} (h : c ∈ (toString n).toList) :
    c = '-' ∨ c.isDigit = true := by
  rw [toList_toString, List.mem_append] at h
  rcases h with h | h
  · split_ifs at h
    · exact .inl (by simpa using h)
    · cases h
  · exact .inr (isDigit_of_mem_toDigits h)

/-- The characters of a written integer may all stand in a column name. -/
theorem isNameCharacter_of_mem_toString {n : Int} {c : Char} (h : c ∈ (toString n).toList) :
    isNameCharacter c = true := by
  rcases mem_toString h with rfl | hdigit
  · rfl
  · simp [isNameCharacter, Char.isAlphanum, hdigit]

theorem lower_toString (n : Int) : Text.lower (toString n) = toString n := by
  have hkeep : ∀ c ∈ (toString n).toList, c.toLower = id c := by
    intro c hc
    rcases mem_toString hc with rfl | hdigit
    · rfl
    · exact Text.toLower_of_isDigit hdigit
  refine Text.lower_eq_self (fun c hc => isNameCharacter_of_mem_toString hc) ?_
  rw [List.map_congr_left hkeep, List.map_id]

theorem splitSign_toString (n : Int) :
    splitSign (toString n).toList = (decide (n < 0), Nat.toDigits 10 n.natAbs) := by
  rw [toList_toString]
  by_cases hn : n < 0
  · simp [hn, splitSign]
  · obtain ⟨d, ds, hds, hd⟩ := toDigits_eq_cons n.natAbs
    simp only [hn, if_false, List.nil_append, hds, decide_false]
    unfold splitSign
    split
    · rename_i heq
      obtain ⟨rfl, -⟩ := List.cons.inj heq
      exact absurd hd (by decide)
    · rename_i heq
      obtain ⟨rfl, -⟩ := List.cons.inj heq
      exact absurd hd (by decide)
    · rfl

/-- Integers that are written alike are the same. -/
theorem toString_injective : Function.Injective (toString : Int → String) := by
  intro m n h
  have hsplit := congrArg (fun text => splitSign text.toList) h
  simp only [splitSign_toString, Prod.mk.injEq, decide_eq_decide] at hsplit
  have habs := toDigits_injective hsplit.2
  omega

theorem isSignedDigits_toString (n : Int) : isSignedDigits (toString n).toList = true := by
  simp only [isSignedDigits, splitSign_toString, Bool.and_eq_true, Bool.not_eq_true',
    List.isEmpty_eq_false_iff, List.all_eq_true]
  exact ⟨Nat.toDigits_ne_nil, fun c hc => Text.isDigit_of_isDigit (isDigit_of_mem_toDigits hc)⟩

/-- An integer that may be written reads back. -/
theorem read?_toString {n : Int} (h : n.natAbs < 10 ^ digitLimit) :
    read? (toString n).toList = some n := by
  have hlength : (Nat.toDigits 10 n.natAbs).length ≤ digitLimit :=
    (Nat.length_toDigits_le_iff (by decide) (by decide)).2 h
  have hdigits : (Nat.toDigits 10 n.natAbs).all Text.isDigit = true :=
    List.all_eq_true.2 fun c hc => Text.isDigit_of_isDigit (isDigit_of_mem_toDigits hc)
  have hvalue : value (Nat.toDigits 10 n.natAbs) = n.natAbs := by
    rw [value_eq_ofDigitChars fun c hc => isDigit_of_mem_toDigits hc, Nat.ofDigitChars_ten_toDigits]
  have hsigned : signed (decide (n < 0)) n.natAbs = n := by
    by_cases hn : n < 0
    · simp only [signed, hn, decide_true, if_true]
      omega
    · simp only [signed, hn, decide_false, Bool.false_eq_true, if_false]
      omega
  simp only [read?, splitSign_toString, hdigits, hlength, hvalue, hsigned, decide_true,
    Bool.and_true, Bool.not_eq_true', List.isEmpty_eq_false_iff]
  exact if_pos Nat.toDigits_ne_nil

end Numeral

/-! ### The type of a written integer -/

namespace TypedValue

/-- A text that does not end in a line end has none to drop. -/
theorem dropLineEnd_eq_self {cs : List Char} (h : ∀ c ∈ cs, c ≠ '\n') : dropLineEnd cs = cs := by
  unfold dropLineEnd
  split
  · rename_i heq
    have hmem : '\n' ∈ cs.reverse := heq ▸ List.mem_cons_self
    exact absurd rfl (h '\n' (List.mem_reverse.1 hmem))
  · rfl

theorem startsLikeNumeral_toString (n : Int) :
    startsLikeNumeral (toString n).toList = true := by
  obtain ⟨d, ds, hds, hd⟩ := Numeral.toDigits_eq_cons n.natAbs
  have hsymbol : isDigitSymbol d = true := by
    simp [isDigitSymbol, Text.isDigit_of_isDigit hd]
  have hsign : (d == '+' || d == '-') = false := by
    refine Bool.eq_false_iff.2 fun heq => ?_
    rcases Bool.or_eq_true_iff.1 heq with heq | heq <;> rw [beq_iff_eq] at heq <;> subst heq <;>
      exact absurd hd (by decide)
  rw [Numeral.toList_toString, hds]
  by_cases hn : n < 0
  · simp [hn, startsLikeNumeral, hsymbol]
  · cases ds with
    | nil => simp [hn, startsLikeNumeral, hsymbol]
    | cons e es => simp [hn, startsLikeNumeral, hsymbol, hsign]

/-- No name of a severity is a written integer. -/
theorem severity?_toString (n : Int) : severity? (toString n) = none := by
  have hne : ∀ (c : Char) (name : String), c ∈ name.toList → c ≠ '-' → c.isDigit = false →
      toString n ≠ name := by
    rintro c name hc hminus hdigit rfl
    rcases Numeral.mem_toString hc with heq | heq
    · exact hminus heq
    · rw [hdigit] at heq
      cases heq
  have hlog := hne 'l' "log" (by decide) (by decide) (by decide)
  have hpositive := hne 'f' "false positive" (by decide) (by decide) (by decide)
  have herror := hne 'e' "error" (by decide) (by decide) (by decide)
  simp only [severity?, Numeral.lower_toString, if_neg hlog, if_neg hpositive, if_neg herror]

/-- A written integer is an integer on every column. -/
theorem of_toString (clock : Clock) (column : Option String) {n : Int}
    (h : n.natAbs < 10 ^ Numeral.digitLimit) :
    of clock column (toString n) = .ok (.integer n) := by
  have hline : dropLineEnd (toString n).toList = (toString n).toList := by
    refine dropLineEnd_eq_self fun c hc => ?_
    rintro rfl
    exact absurd (Numeral.isNameCharacter_of_mem_toString hc) (by decide)
  have hnumeral : ofNumeral clock (toString n).toList = .ok (.integer n) := by
    simp only [ofNumeral, hline, Numeral.isSignedDigits_toString, if_true,
      Numeral.read?_toString h]
  simp only [of, severity?_toString, ite_self, startsLikeNumeral_toString, if_true, hnumeral]

end TypedValue

end ListingFilter
