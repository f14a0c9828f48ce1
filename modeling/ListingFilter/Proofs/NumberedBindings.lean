import Mathlib.Order.Interval.Set.LinearOrder
import ListingFilter.Proofs.AlikeBindings
import ListingFilter.Proofs.WrittenIntegers
/-!
# Parameters that are numbered

The parameters of a clause are called `fp_0`, `fp_1` and so on, in the order in which they are
bound; no name has to be lengthened. A computation binds the numbers from the one that it starts
with up to the one that it ends with, and what is said of its result may refer to these. A literal
gives an operand, which is a number or a new parameter.
-/

namespace ListingFilter

/-- The text holds neither parentheses nor colons. -/
def Text.IsPlain (text : String) : Prop := ∀ c ∈ text.toList, c ≠ '(' ∧ c ≠ ')' ∧ c ≠ ':'

namespace Sql

/-- The name of the parameter with the number `n`. -/
def paramName (n : Nat) : String := "fp_" ++ toString n

theorem paramName_injective : Function.Injective paramName := by
  intro m n h
  have htext := congrArg String.toList h
  rw [paramName, paramName, String.toList_append, String.toList_append] at htext
  have hdigits : m.repr.toList = n.repr.toList := List.append_cancel_left htext
  rw [Nat.toList_repr, Nat.toList_repr] at hdigits
  exact Numeral.toDigits_injective hdigits

/-- A name that begins in another way is no number of the clause. -/
theorem paramName_ne {name : String} (h : name.toList.take 3 ≠ ['f', 'p', '_']) (n : Nat) :
    paramName n ≠ name := by
  rintro rfl
  exact h (by simp [paramName])

namespace Bindings

variable {bindings : Bindings}

structure IsNumbered (bindings : Bindings) : Prop where
  stem : bindings.stem = "fp"
  names : bindings.names = (List.range bindings.entries.length).map paramName

/-- The name with the next number is free. -/
theorem IsNumbered.freshName (h : bindings.IsNumbered) :
    bindings.freshName = paramName bindings.entries.length := by
  have hnames : bindings.entries.map (·.1) = (List.range bindings.entries.length).map paramName :=
    h.names
  have hfree : paramName bindings.entries.length ∉ bindings.entries.map (·.1) := by
    rw [hnames]
    intro hmem
    obtain ⟨n, hn, heq⟩ := List.mem_map.1 hmem
    obtain rfl := paramName_injective heq
    exact absurd (List.mem_range.1 hn) (lt_irrefl _)
  have hkeep : ∀ fuel, freshen (bindings.entries.map (·.1)) fuel
      (paramName bindings.entries.length) = paramName bindings.entries.length := by
    intro fuel
    cases fuel with
    | zero => rfl
    | succ fuel =>
      simp only [freshen, List.contains_eq_mem, hfree, decide_false, if_neg Bool.false_ne_true]
  rw [Bindings.freshName, h.stem]
  exact hkeep bindings.entries.length

theorem IsNumbered.bind (h : bindings.IsNumbered) (value : String) :
    (bindings.bind value).1 = ":" ++ paramName bindings.entries.length ∧
      (bindings.bind value).2.entries.length = bindings.entries.length + 1 ∧
      (bindings.bind value).2.IsNumbered := by
  have hnames : bindings.entries.map (·.1) = (List.range bindings.entries.length).map paramName :=
    h.names
  refine ⟨?_, ?_, h.stem, ?_⟩
  · rw [Bindings.bind, h.freshName]
  · simp [Bindings.bind]
  · simp [Bindings.bind, Bindings.names, hnames, h.freshName, List.range_succ]

end Bindings

/-! ### Computations that bind parameters -/

section Binds

variable {α β : Type} {post : Set ℕ → α → Prop} {post' : Set ℕ → β → Prop}

/-- Started from numbered parameters, the computation adds numbered ones; `post` holds of the
numbers added and the result. -/
def Binds (computation : Binding α) (post : Set ℕ → α → Prop) : Prop :=
  ∀ ⦃start : Bindings⦄ ⦃result : α × Bindings⦄, start.IsNumbered → computation start = .ok result →
    result.2.IsNumbered ∧ start.entries.length ≤ result.2.entries.length ∧
      post (Set.Ico start.entries.length result.2.entries.length) result.1

namespace Binds

theorem pure {value : α} (h : post ∅ value) : Binds (pure value) post := by
  intro start result hstart hresult
  obtain rfl := Except.ok.inj hresult
  refine ⟨hstart, le_rfl, ?_⟩
  simpa using h

theorem bind {first : Binding α} {next : α → Binding β} (h : Binds first post)
    (hnext : ∀ numbers value, post numbers value →
      Binds (next value) fun others result => post' (numbers ∪ others) result) :
    Binds (first >>= next) post' := by
  intro start result hstart hresult
  obtain ⟨value, middle, hvalue, hrest⟩ := stateBind_eq_ok_iff.1 hresult
  obtain ⟨hmiddle, hle, hpost⟩ := h hstart hvalue
  obtain ⟨hend, hle', hpost'⟩ := hnext _ _ hpost hmiddle hrest
  refine ⟨hend, hle.trans hle', ?_⟩
  rwa [Set.Ico_union_Ico_eq_Ico hle hle'] at hpost'

theorem mono {computation : Binding α} {weaker : Set ℕ → α → Prop} (h : Binds computation post)
    (hweaker : ∀ numbers value, post numbers value → weaker numbers value) :
    Binds computation weaker := by
  intro start result hstart hresult
  obtain ⟨hend, hle, hpost⟩ := h hstart hresult
  exact ⟨hend, hle, hweaker _ _ hpost⟩

theorem map {computation : Binding α} (f : α → β)
    (h : Binds computation fun numbers value => post' numbers (f value)) :
    Binds (f <$> computation) post' := by
  rw [map_eq_pure_bind]
  refine h.bind fun numbers value hvalue => Binds.pure ?_
  rwa [Set.union_empty]

end Binds

end Binds

/-! ### Operands -/

/-- What a value is compared with. -/
inductive Operand
  | number (text : String)
  | param (n : Nat)
  deriving DecidableEq

namespace Operand

def text : Operand → String
  | number text => text
  | param n => ":" ++ paramName n

/-- The parameters that the operand refers to. -/
def numbers : Operand → Set ℕ
  | number _ => ∅
  | param n => {n}

/-- A number is plain. -/
def IsPlain : Operand → Prop
  | number text => Text.IsPlain text
  | param _ => True

end Operand

end Sql

/-! ### Numbers in a statement -/

namespace Numeral

theorem isPlain_toString (n : Int) : Text.IsPlain (toString n) := by
  intro c hc
  rcases mem_toString hc with rfl | hdigit
  · decide
  · refine ⟨?_, ?_, ?_⟩ <;> rintro rfl <;> cases hdigit

end Numeral

namespace Binary64

/-- The characters of a written number. -/
def isNumberCharacter (c : Char) : Bool := c.isDigit || c == '-' || c == '+' || c == '.' || c == 'e'

theorem isNumberCharacter_of_mem_toDigits {n : Nat} {c : Char} (h : c ∈ Nat.toDigits 10 n) :
    isNumberCharacter c = true := by
  simp [isNumberCharacter, Numeral.isDigit_of_mem_toDigits h]

theorem isNumberCharacter_of_mem_exponentText {e : Int} {c : Char} (h : c ∈ exponentText e) :
    isNumberCharacter c = true := by
  rcases List.mem_cons.1 h with rfl | h
  · split_ifs <;> rfl
  rcases List.mem_append.1 h with h | h
  · rw [(List.mem_replicate.1 h).2]
    rfl
  · exact isNumberCharacter_of_mem_toDigits h

theorem isNumberCharacter_of_mem_shortest {mantissa : Nat} {exponent : Int} {c : Char}
    (h : c ∈ (shortest mantissa exponent).digits) : isNumberCharacter c = true := by
  simp only [shortest] at h
  split at h
  · rw [List.mem_singleton.1 h]
    rfl
  · have hmem : ∀ ds : List Char, c ∈ dropZerosAtEnd ds → c ∈ ds := by
      intro ds hc
      exact List.mem_reverse.1 ((List.dropWhile_sublist _).subset (List.mem_reverse.1 hc))
    exact isNumberCharacter_of_mem_toDigits (hmem _ h)

theorem Decimal.isNumberCharacter_text {x : Decimal}
    (hdigits : ∀ c ∈ x.digits, isNumberCharacter c = true) :
    ∀ c ∈ x.text, isNumberCharacter c = true := by
  have hzeros : ∀ n, ∀ c ∈ List.replicate n '0', isNumberCharacter c = true := by
    intro n c hc
    rw [(List.mem_replicate.1 hc).2]
    rfl
  have htake : ∀ n, ∀ c ∈ x.digits.take n, isNumberCharacter c = true :=
    fun n c hc => hdigits c (List.mem_of_mem_take hc)
  have hdrop : ∀ n, ∀ c ∈ x.digits.drop n, isNumberCharacter c = true :=
    fun n c hc => hdigits c (List.mem_of_mem_drop hc)
  simp only [Decimal.text]
  split_ifs with hplace hbelow hwhole hscientific
  · simp only [List.cons_append, List.forall_mem_cons, List.forall_mem_append]
    exact ⟨rfl, rfl, hzeros _, hdigits⟩
  · simp only [List.forall_mem_cons, List.forall_mem_append]
    exact ⟨⟨htake _, hzeros _⟩, rfl, rfl, by simp⟩
  · simp only [List.forall_mem_cons, List.forall_mem_append]
    exact ⟨⟨htake _, hzeros _⟩, rfl, hdrop _⟩
  · simp only [List.forall_mem_cons, List.forall_mem_append, List.append_nil]
    exact ⟨htake 1, rfl, fun c hc => isNumberCharacter_of_mem_exponentText hc⟩
  · simp only [List.forall_mem_cons, List.forall_mem_append]
    exact ⟨⟨htake 1, rfl, hdrop 1⟩, rfl, fun c hc => isNumberCharacter_of_mem_exponentText hc⟩

theorem isNumberCharacter_text {x : Binary64} (h : x.isFinite = true) :
    ∀ c ∈ x.text.toList, isNumberCharacter c = true := by
  cases x with
  | nan => cases h
  | infinite negative => cases h
  | finite negative mantissa exponent =>
    have hdigits : ∀ c ∈ (if mantissa = 0 then ['0', '.', '0']
        else (shortest mantissa exponent).text), isNumberCharacter c = true := by
      split_ifs
      · simp [isNumberCharacter]
      · exact Decimal.isNumberCharacter_text fun c hc => isNumberCharacter_of_mem_shortest hc
    cases negative with
    | false => simpa [text] using hdigits
    | true => simpa [text] using ⟨rfl, hdigits⟩

end Binary64

namespace Sql

theorem isPlain_paramName (n : Nat) : Text.IsPlain (paramName n) := by
  have hstem : Text.IsPlain "fp_" := by simp [Text.IsPlain]
  intro c hc
  rw [paramName, String.toList_append, List.mem_append] at hc
  rcases hc with hc | hc
  · exact hstem c hc
  · exact Numeral.isPlain_toString n c hc

/-- A value that needs no parameter is written as a number. -/
theorem isNumberCharacter_of_inline? {value : Json} {text : String}
    (h : inline? value = some (.ok text)) :
    ∀ c ∈ text.toList, Binary64.isNumberCharacter c = true := by
  cases value with
  | bool value =>
    obtain rfl : (if value then "1" else "0") = text := by simpa [inline?] using h
    cases value <;> simp [Binary64.isNumberCharacter]
  | integer value =>
    simp only [inline?, Numeral.write?] at h
    split_ifs at h with hlimit
    · obtain rfl : toString value = text := by simpa using h
      intro c hc
      rcases Numeral.mem_toString hc with rfl | hdigit
      · rfl
      · simp [Binary64.isNumberCharacter, hdigit]
    · cases h
  | real value =>
    simp only [inline?] at h
    split_ifs at h with hfinite
    obtain rfl : value.text = text := by simpa using h
    exact Binary64.isNumberCharacter_text hfinite
  | null | text value | array items | object members => cases h

theorem inline?_plain {value : Json} {text : String} (h : inline? value = some (.ok text)) :
    Text.IsPlain text := by
  intro c hc
  refine ⟨?_, ?_, ?_⟩ <;> rintro rfl <;> cases isNumberCharacter_of_inline? h _ hc

/-- A literal gives an operand, and binds the parameter that this refers to, if any. -/
theorem binds_literal (value : Json) :
    Binds (literal value) fun numbers text =>
      ∃ operand : Operand, operand.IsPlain ∧ text = operand.text ∧ numbers = operand.numbers := by
  intro start result hstart hresult
  unfold literal at hresult
  cases hinline : inline? value with
  | some outcome =>
    cases outcome with
    | error fault => simp [hinline] at hresult
    | ok text =>
      obtain rfl : (text, start) = result := by simpa [hinline] using hresult
      exact ⟨hstart, le_rfl, .number text, inline?_plain hinline, rfl, by simp [Operand.numbers]⟩
  | none =>
    cases hdisplay : value.display? with
    | none => simp [hinline, hdisplay] at hresult
    | some text =>
      obtain rfl : start.bind text = result := by simpa [hinline, hdisplay] using hresult
      obtain ⟨hname, hlength, hend⟩ := hstart.bind text
      refine ⟨hend, by omega, .param start.entries.length, trivial, hname, ?_⟩
      rw [hlength]
      ext n
      rw [Set.mem_Ico, Operand.numbers, Set.mem_singleton_iff]
      omega

theorem binds_containsPattern (part : String) :
    Binds (containsPattern part) fun numbers text =>
      ∃ operand : Operand, operand.IsPlain ∧ text = operand.text ∧ numbers = operand.numbers :=
  binds_literal _

end Sql

end ListingFilter
