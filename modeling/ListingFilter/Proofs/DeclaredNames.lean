import ListingFilter.Proofs.WrittenClauses
import ListingFilter.Sql.Rendering
/-!
# The names that a text declares

Whether a colon declares a parameter depends on what stands around it, so the names of a text are
looked for wherever it may stand in a statement. Colons in pairs declare nothing, wherever they
stand. A row of tokens declares the parameters of its operands: each of these stands after a blank,
and what follows does not go on with its name.
-/

namespace ListingFilter

namespace Sql

open Text (isWord)

/-! ### Colons in pairs -/

/-- Whether a colon waits for its second one after `c`, if `waits` before it; nothing if the colon
before `c` stays alone. -/
def pairStep (waits : Bool) (c : Char) : Option Bool :=
  if c = ':' then some !waits else if waits then none else some false

/-- Colons stand in pairs only. -/
def PairsColons (cs : List Char) : Prop := cs.foldlM pairStep false = some false

instance (cs : List Char) : Decidable (PairsColons cs) :=
  inferInstanceAs (Decidable (cs.foldlM pairStep false = some false))

theorem PairsColons.append {front back : List Char} (hfront : PairsColons front)
    (hback : PairsColons back) : PairsColons (front ++ back) := by
  rw [PairsColons, List.foldlM_append, hfront]
  exact hback

theorem pairsColons_of_notMem {cs : List Char} (h : ':' ∉ cs) : PairsColons cs := by
  induction cs with
  | nil => rfl
  | cons c cs ih =>
    obtain ⟨hc, hcs⟩ := not_or.1 (mt List.mem_cons.2 h)
    have hstep : pairStep false c = some false := by simp [pairStep, Ne.symm hc]
    rw [PairsColons, List.foldlM_cons, hstep]
    exact ih hcs

theorem declaredNames_cons_of_ne {c : Char} (hc : c ≠ ':') (before : Option Char)
    (cs : List Char) : declaredNames before (c :: cs) = declaredNames (some c) cs := by
  simp [declaredNames, hc]

theorem declaredNames_append_of_waits {waits : Bool} {cs : List Char}
    (h : cs.foldlM pairStep waits = some false) {before : Option Char}
    (hbefore : waits = true → before = some ':') (rest : List Char) :
    declaredNames before (cs ++ rest) = declaredNames (cs.getLast?.or before) rest := by
  induction cs generalizing waits before with
  | nil => rfl
  | cons c cs ih =>
    rw [List.foldlM_cons] at h
    obtain ⟨next, hstep, hrest⟩ := Option.bind_eq_some_iff.1 h
    have hlast : (c :: cs).getLast?.or before = cs.getLast?.or (some c) := by
      cases hcs : cs.getLast? <;> simp [List.getLast?_cons, hcs]
    rw [List.cons_append, hlast]
    by_cases hc : c = ':'
    · subst hc
      rw [← ih hrest fun _ => rfl]
      cases waits with
      -- The second colon of a pair stands after the first one, where none begins a name.
      | true => simp [declaredNames, hbefore rfl, mayPrecede]
      -- The first one is followed by the second one, so by no name.
      | false =>
        obtain rfl : true = next := by simpa [pairStep] using hstep
        have hsecond : (cs ++ rest).takeWhile isWord = [] := by
          cases cs with
          | nil => cases hrest
          | cons d cs =>
            obtain ⟨last, hstep', -⟩ := Option.bind_eq_some_iff.1 hrest
            obtain rfl : d = ':' := by
              by_contra hd
              simp [pairStep, hd] at hstep'
            exact List.takeWhile_cons_of_neg (by decide +kernel)
        simp [declaredNames, declaredName?, hsecond]
    · rw [declaredNames_cons_of_ne hc]
      refine ih hrest fun hnext => ?_
      subst hnext
      cases waits <;> simp [pairStep, hc] at hstep

theorem declaredNames_append_of_pairsColons {cs : List Char} (h : PairsColons cs)
    (before : Option Char) (rest : List Char) :
    declaredNames before (cs ++ rest) = declaredNames (cs.getLast?.or before) rest :=
  declaredNames_append_of_waits h (by simp) rest

/-! ### What a text declares -/

/-- What the text begins with does not go on with a name. -/
def EndsName (cs : List Char) : Prop := ∀ c ∈ cs.head?, isWord c = false ∧ c ≠ ':'

theorem EndsName.append {front back : List Char} (hfront : EndsName front)
    (hback : EndsName back) : EndsName (front ++ back) := by
  cases front with
  | nil => exact hback
  | cons c front => exact hfront

theorem endsName_of_head {cs : List Char} (h : cs.head? = some ' ' ∨ cs.head? = some ')') :
    EndsName cs := by
  intro c hc
  rcases h with h | h
  · obtain rfl : ' ' = c := Option.some.inj (h.symm.trans hc)
    exact ⟨by decide +kernel, by decide⟩
  · obtain rfl : ')' = c := Option.some.inj (h.symm.trans hc)
    exact ⟨by decide +kernel, by decide⟩

/-- After `before`, and in front of what does not go on with a name, the text declares the names. -/
def DeclaresAfter (before : Option Char) (text : String) (names : Set String) : Prop :=
  ∀ rest, EndsName rest → ∀ name : List Char,
    name ∈ declaredNames before (text.toList ++ rest) ↔
      String.ofList name ∈ names ∨ name ∈ declaredNames (text.toList.getLast?.or before) rest

theorem getLast?_append_or (front back : List Char) (before : Option Char) :
    (front ++ back).getLast?.or before = back.getLast?.or (front.getLast?.or before) := by
  rw [List.getLast?_append, Option.or_assoc]

namespace DeclaresAfter

variable {before : Option Char} {front back : String} {names others : Set String}

theorem append (hfront : DeclaresAfter before front names) (hends : EndsName back.toList)
    (hback : DeclaresAfter (front.toList.getLast?.or before) back others) :
    DeclaresAfter before (front ++ back) (names ∪ others) := by
  intro rest hrest name
  rw [String.toList_append, List.append_assoc, hfront _ (hends.append hrest), hback rest hrest,
    getLast?_append_or, Set.mem_union, or_assoc]

/-- Colons in pairs may stand in front of anything. -/
theorem of_pairsColons_append (h : PairsColons front.toList)
    (hback : DeclaresAfter (front.toList.getLast?.or before) back names) :
    DeclaresAfter before (front ++ back) names := by
  intro rest hrest name
  rw [String.toList_append, List.append_assoc, declaredNames_append_of_pairsColons h,
    hback rest hrest, getLast?_append_or]

theorem of_pairsColons {text : String} (h : PairsColons text.toList) :
    DeclaresAfter before text ∅ := by
  intro rest _ name
  simp [declaredNames_append_of_pairsColons h]

/-- A colon and a name after a blank. -/
theorem param {name : String} (hne : name.toList ≠ [])
    (hword : ∀ c ∈ name.toList, isWord c = true) :
    DeclaresAfter (some ' ') (":" ++ name) {name} := by
  intro rest hrest other
  have hstop : rest.takeWhile isWord = [] := by
    cases rest with
    | nil => rfl
    | cons c rest => exact List.takeWhile_cons_of_neg (by simp [(hrest c rfl).1])
  have hrun : (name.toList ++ rest).takeWhile isWord = name.toList := by
    rw [List.takeWhile_append_of_pos hword, hstop, List.append_nil]
  have hcolon : rest.head? ≠ some ':' := fun hhead => (hrest ':' hhead).2 rfl
  have hname : declaredName? (name.toList ++ rest) = some name.toList := by
    simp [declaredName?, hrun, hne, hcolon]
  have hpairs : PairsColons name.toList := by
    refine pairsColons_of_notMem fun hmem => ?_
    exact absurd (hword ':' hmem) (by decide +kernel)
  have hblank : mayPrecede isWord (some ' ') = true := by decide +kernel
  have hlast : (":" ++ name).toList.getLast?.or (some ' ') =
      name.toList.getLast?.or (some ':') := by
    rw [String.toList_append, getLast?_append_or]
    rfl
  rw [hlast, String.toList_append, List.append_assoc, ← declaredNames_append_of_pairsColons hpairs]
  have hchars : other = name.toList ↔ String.ofList other = name := by
    rw [← String.ofList_toList (s := name), String.ofList_inj]
    simp
  simp [declaredNames, hblank, hname, hchars]

end DeclaresAfter

/-- Wherever it stands, the text declares the names. -/
def Declares (text : String) (names : Set String) : Prop :=
  ∀ before, DeclaresAfter before text names

/-! ### Names of parameters -/

theorem isWord_of_isDigit {c : Char} (h : c.isDigit = true) : isWord c = true := by
  refine List.any_eq_true.2 ⟨(0x30, 0x39), .head _, ?_⟩
  simpa [Char.isDigit, UInt32.le_iff_toNat_le] using h

theorem isWord_of_mem_paramName {n : Nat} {c : Char} (h : c ∈ (paramName n).toList) :
    isWord c = true := by
  have hstem : ∀ d ∈ "fp_".toList, isWord d = true :=
    List.all_eq_true.1 (by decide +kernel : ("fp_".toList.all isWord) = true)
  rw [paramName, String.toList_append, List.mem_append] at h
  rcases h with h | h
  · exact hstem c h
  · rw [show (toString n).toList = Nat.toDigits 10 n from Nat.toList_repr] at h
    exact isWord_of_isDigit (Numeral.isDigit_of_mem_toDigits h)

theorem declaresAfter_operand {operand : Operand} (h : operand.IsPlain) :
    DeclaresAfter (some ' ') operand.text (paramName '' operand.numbers) := by
  cases operand with
  | number text =>
    rw [Operand.numbers, Set.image_empty]
    exact DeclaresAfter.of_pairsColons (pairsColons_of_notMem fun hmem => (h ':' hmem).2.2 rfl)
  | param n =>
    rw [Operand.numbers, Set.image_singleton]
    refine DeclaresAfter.param ?_ fun c hc => isWord_of_mem_paramName hc
    rw [paramName, String.toList_append]
    exact List.append_ne_nil_of_left_ne_nil (by decide +kernel) _

/-! ### Rows of tokens -/

/-- What follows an operand does not go on with its name. -/
theorem endsName_writtenTokens {depth : Nat} {stop : Position} {tokens : List Token}
    (h : tokens.foldlM Position.after ⟨depth, .operand⟩ = some stop) :
    EndsName (writtenTokens tokens).toList := by
  cases tokens with
  | nil => simp [EndsName]
  | cons token tokens =>
    obtain ⟨next, hstep, -⟩ := Option.bind_eq_some_iff.1 h
    cases token with
    | fixed text =>
      obtain ⟨-, -, hhead, -⟩ := Position.after_fixed hstep
      apply endsName_of_head
      rw [writtenTokens, String.toList_append, List.head?_append]
      rcases hhead rfl with hhead | hhead
      · simp [hhead]
      · simp [hhead]
    | declared expr => exact absurd rfl (Position.after_declared hstep).1
    | value operand => cases (Position.after_value hstep).1

theorem declaresAfter_writtenTokens {start stop : Position} {tokens : List Token}
    (hsound : ∀ token ∈ tokens, token.IsSound fun expr => PairsColons expr.toList)
    (hscan : tokens.foldlM Position.after start = some stop) {before : Option Char}
    (hbefore : start.edge = .blank → before = some ' ') :
    DeclaresAfter before (writtenTokens tokens) (paramName '' tokenNumbers tokens) := by
  -- A position after a blank knows the last character, which an operand depends on.
  induction tokens generalizing start before with
  | nil =>
    rw [tokenNumbers, Set.image_empty]
    exact DeclaresAfter.of_pairsColons (by decide +kernel)
  | cons token tokens ih =>
    obtain ⟨htoken, htokens⟩ := List.forall_mem_cons.1 hsound
    obtain ⟨next, hstep, hrest⟩ := Option.bind_eq_some_iff.1 hscan
    rw [writtenTokens, tokenNumbers, Set.image_union]
    cases token with
    | fixed text =>
      obtain ⟨hcolon, -, -, hlast⟩ := Position.after_fixed hstep
      rw [Token.numbers, Set.image_empty, Set.empty_union]
      refine DeclaresAfter.of_pairsColons_append (pairsColons_of_notMem hcolon) ?_
      refine ih htokens hrest fun hblank => ?_
      rw [Token.written, hlast hblank, Option.some_or]
    | declared expr =>
      obtain ⟨-, rfl⟩ := Position.after_declared hstep
      rw [Token.numbers, Set.image_empty, Set.empty_union]
      exact DeclaresAfter.of_pairsColons_append htoken (ih htokens hrest nofun)
    | value operand =>
      obtain ⟨hblank, rfl⟩ := Position.after_value hstep
      rw [hbefore hblank]
      exact (declaresAfter_operand htoken).append (endsName_writtenTokens hrest)
        (ih htokens hrest nofun)

/-- Wherever a condition stands, it declares the parameters of its operands. -/
theorem IsWritten.declares {start stop : Position} {numbers : Set ℕ} {text : String}
    (h : IsWritten (fun expr => PairsColons expr.toList) start stop numbers text)
    (hstart : start.edge ≠ .blank) : Declares text (paramName '' numbers) := by
  obtain ⟨tokens, rfl, hscan, hsound, rfl⟩ := h
  intro before
  exact declaresAfter_writtenTokens hsound hscan fun hblank => absurd hblank hstart

end Sql

end ListingFilter
