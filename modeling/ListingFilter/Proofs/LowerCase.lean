import Mathlib.Data.List.DropRight
import ListingFilter.Proofs.Characters
import ListingFilter.Text.Substring
/-!
# Parts of a text in lower case

Lower case goes letter by letter, but for the capital sigma, which looks at the letters around it.
A part without a capital sigma is therefore still there in lower case, whatever stands around it,
and lower case neither makes nor loses a mark that is no letter. Nor does it make or lose a blank,
so that a trimmed text is trimmed in lower case, too.
-/

namespace ListingFilter.Text

/-! ### Parts -/

theorem occursIn_iff {part cs : List Char} : occursIn part cs = true ↔ part <:+: cs := by
  induction cs with
  | nil => simp [occursIn]
  | cons c cs ih =>
    rw [occursIn, Bool.or_eq_true, List.isPrefixOf_iff_prefix, ih, List.infix_cons_iff]

theorem contains_iff {text part : String} :
    contains text part = true ↔ part.toList <:+: text.toList := occursIn_iff

/-! ### Letter by letter -/

/-- The capital letter whose lower-case form depends on its place. -/
def capitalSigma : Char := Char.ofNat 0x3A3

theorem eq_capitalSigma_iff {c : Char} : c = capitalSigma ↔ c.toNat = 0x3A3 := by
  constructor
  · rintro rfl
    rfl
  · intro h
    apply Char.toNat_inj.1
    rw [h]
    rfl

theorem lowerChars_append_of_notMem {part : List Char} (h : capitalSigma ∉ part)
    (rest : List Char) (afterCased : Bool) :
    ∃ afterCased', lowerChars afterCased (part ++ rest) =
      part.flatMap lowerChar ++ lowerChars afterCased' rest := by
  induction part generalizing afterCased with
  | nil => exact ⟨afterCased, rfl⟩
  | cons c part ih =>
    obtain ⟨hc, hpart⟩ := not_or.1 (List.mem_cons.not.1 h)
    have hsigma : c.toNat ≠ 0x3A3 := fun hsigma => hc (eq_capitalSigma_iff.2 hsigma).symm
    obtain ⟨afterCased', hrest⟩ := ih hpart _
    refine ⟨afterCased', ?_⟩
    rw [List.cons_append, lowerChars, if_neg hsigma, hrest, List.flatMap_cons, List.append_assoc]

theorem lowerChars_of_notMem {cs : List Char} (h : capitalSigma ∉ cs) (afterCased : Bool) :
    lowerChars afterCased cs = cs.flatMap lowerChar := by
  obtain ⟨afterCased', hcs⟩ := lowerChars_append_of_notMem h [] afterCased
  rwa [List.append_nil, lowerChars, List.append_nil] at hcs

/-- What stands at the end of a text is at the end of it in lower case. -/
theorem exists_lowerChars_append (front rest : List Char) (afterCased : Bool) :
    ∃ front' afterCased', lowerChars afterCased (front ++ rest) =
      front' ++ lowerChars afterCased' rest := by
  induction front generalizing afterCased with
  | nil => exact ⟨[], afterCased, rfl⟩
  | cons c front ih =>
    rw [List.cons_append, lowerChars]
    obtain ⟨front', afterCased', hrest⟩ := ih _
    exact ⟨_, afterCased', by rw [hrest, ← List.append_assoc]⟩

/-- A part without a capital sigma is a part in lower case. -/
theorem infix_lowerChars {part cs : List Char} (hpart : capitalSigma ∉ part) (h : part <:+: cs)
    (afterCased afterCased' : Bool) :
    lowerChars afterCased part <:+: lowerChars afterCased' cs := by
  obtain ⟨before, after, rfl⟩ := h
  rw [List.append_assoc, lowerChars_of_notMem hpart]
  obtain ⟨front, cased, hfront⟩ := exists_lowerChars_append before (part ++ after) afterCased'
  obtain ⟨cased', hback⟩ := lowerChars_append_of_notMem hpart after cased
  exact ⟨front, lowerChars cased' after, by rw [hfront, hback, List.append_assoc]⟩

theorem contains_lower {text part : String} (hpart : capitalSigma ∉ part.toList)
    (h : part.toList <:+: text.toList) : contains (lower text) (lower part) = true := by
  rw [contains_iff, lower, lower, String.toList_ofList, String.toList_ofList]
  exact infix_lowerChars hpart h false false

/-! ### Marks -/

/-- A character between words neither changes nor hides the letters before it. -/
theorem lowerChars_append_singleton {mark : Char} (hlower : lowerChar mark = [mark])
    (hsigma : mark.toNat ≠ 0x3A3) (hcased : casedRanges.has mark = false)
    (hignorable : caseIgnorableRanges.has mark = false) (cs : List Char) (afterCased : Bool) :
    lowerChars afterCased (cs ++ [mark]) = lowerChars afterCased cs ++ [mark] := by
  have hfollows : ∀ rest : List Char, casedFollows (rest ++ [mark]) = casedFollows rest := by
    intro rest
    induction rest with
    | nil => simp [casedFollows, hignorable, hcased]
    | cons c rest ih =>
      by_cases hc : caseIgnorableRanges.has c = true
      · simpa [casedFollows, hc] using ih
      · simp [casedFollows, hc]
  induction cs generalizing afterCased with
  | nil => simp [lowerChars, hlower, hsigma]
  | cons c cs ih => simp only [List.cons_append, lowerChars, ih, hfollows, List.append_assoc]

/-- A visible ASCII character before the small letters that is no letter itself. -/
def IsMark (c : Char) : Prop := 0x20 < c.toNat ∧ c.toNat < 0x60 ∧ c.isAlpha = false

instance (c : Char) : Decidable (IsMark c) := inferInstanceAs (Decidable (_ ∧ _ ∧ _))

/-- No letter outside ASCII is moved to a mark. -/
theorem lowerRuns_bound : ∀ run ∈ lowerRuns, 0x60 ≤ (run.1 : Int) + run.2.2.2 := by
  decide +kernel

theorem lowerShift_bound {n : Nat} (h : 0x80 ≤ n) : 0x60 ≤ (n : Int) + lowerShift n := by
  unfold lowerShift
  split
  · rename_i run hrun
    have hbound := lowerRuns_bound run (List.mem_of_find?_eq_some hrun)
    have hfirst := List.find?_some hrun
    simp only [Bool.and_eq_true, decide_eq_true_eq] at hfirst
    have := hfirst.1.1
    omega
  · omega

theorem mem_lowerChar_iff {mark c : Char} (hmark : IsMark mark) :
    mark ∈ lowerChar c ↔ mark = c := by
  obtain ⟨hvisible, hbound, halpha⟩ := hmark
  unfold lowerChar
  split_ifs with hascii hdotted
  · rw [List.mem_singleton]
    rcases toLower_isAlpha_or_eq c with ⟨hc, hlower⟩ | hlower
    · constructor
      · rintro rfl
        simp [halpha] at hlower
      · rintro rfl
        simp [halpha] at hc
    · rw [hlower]
  · constructor
    · intro hmem
      rcases List.mem_pair.1 hmem with rfl | rfl
      · simp at halpha
      · simp at hbound
    · rintro rfl
      omega
  · rw [List.mem_singleton]
    constructor
    · intro hmoved
      have hshift := lowerShift_bound (n := c.toNat) (by omega)
      by_cases hvalid : (Int.toNat (c.toNat + lowerShift c.toNat)).isValidChar
      · have hnat := congrArg Char.toNat hmoved
        rw [toNat_ofNat hvalid] at hnat
        omega
      · rw [hmoved, ofNat_of_not_isValidChar hvalid] at hvisible
        exact absurd hvisible (by decide)
    · rintro rfl
      omega

theorem mem_lowerChars_iff {mark : Char} {cs : List Char} (hmark : IsMark mark)
    (afterCased : Bool) : mark ∈ lowerChars afterCased cs ↔ mark ∈ cs := by
  induction cs generalizing afterCased with
  | nil => rfl
  | cons c cs ih =>
    have hsmall : ∀ d : Char, 0x60 ≤ d.toNat → mark ≠ d := by
      rintro d hd rfl
      exact absurd hmark.2.1 (by omega)
    rw [lowerChars, List.mem_append, ih, List.mem_cons]
    refine or_congr_left ?_
    split_ifs with hsigma hfinal
    · simp [hsmall c (by omega), hsmall (Char.ofNat 0x3C2) (by decide)]
    · simp [hsmall c (by omega), hsmall (Char.ofNat 0x3C3) (by decide)]
    · exact mem_lowerChar_iff hmark

theorem mem_lower_iff {mark : Char} {text : String} (hmark : IsMark mark) :
    mark ∈ (lower text).toList ↔ mark ∈ text.toList := by
  rw [lower, String.toList_ofList]
  exact mem_lowerChars_iff hmark false

/-! ### Lower case once more -/

/-- A letter that lower case leaves as it is, wherever it stands. -/
def IsLower (c : Char) : Prop := lowerChar c = [c] ∧ c ≠ capitalSigma

instance (c : Char) : Decidable (IsLower c) := inferInstanceAs (Decidable (_ ∧ _))

/-- No letter of `run` is among those from `low` to `high`, at the distance `step` from each
other. -/
def isApart (low high step : Nat) (run : Nat × Nat × Nat × Int) : Bool :=
  Nat.blt high run.1 || Nat.blt run.2.1 low ||
    (run.2.2.1 == 2 && (step == 2 || low == high) && (low + run.1) % 2 == 1)

/-- No letter is moved to the dotted capital I or to one that is moved itself. -/
theorem lowerRuns_isApart : (lowerRuns.all fun run =>
    ((0x130, 0x130, 1, 0) :: lowerRuns).all
      (isApart (run.1 + run.2.2.2).toNat (run.2.1 + run.2.2.2).toNat run.2.2.1)) = true := by
  decide +kernel

variable {c : Char}

/-- A letter that is moved lies in one of the runs. -/
theorem exists_lowerRun {n : Nat} (hmoved : lowerShift n ≠ 0) :
    ∃ run ∈ lowerRuns, run.1 ≤ n ∧ n ≤ run.2.1 ∧ (n - run.1) % run.2.2.1 = 0 ∧
      lowerShift n = run.2.2.2 := by
  obtain ⟨run, hrun⟩ : ∃ run, lowerRuns.find? (fun run =>
      run.1 ≤ n && n ≤ run.2.1 && (n - run.1) % run.2.2.1 == 0) = some run := by
    refine Option.ne_none_iff_exists'.1 fun hnone => hmoved ?_
    rw [lowerShift, hnone]
  have hwithin := List.find?_some hrun
  simp only [Bool.and_eq_true, decide_eq_true_eq, beq_iff_eq] at hwithin
  exact ⟨run, List.mem_of_find?_eq_some hrun, hwithin.1.1, hwithin.1.2, hwithin.2, by
    rw [lowerShift, hrun]⟩

/-- A letter that is moved comes to one that is not. -/
theorem lowerShift_of_ne_zero {n m : Nat} (hmoved : lowerShift n ≠ 0)
    (hm : (m : Int) = n + lowerShift n) : lowerShift m = 0 ∧ m ≠ 0x130 := by
  obtain ⟨run, hrun, hwithin⟩ := exists_lowerRun hmoved
  rw [hwithin.2.2.2] at hm
  have hbound := lowerRuns_bound run hrun
  have hall := List.all_eq_true.1 lowerRuns_isApart run hrun
  have hnone : ∀ other ∈ (0x130, 0x130, 1, 0) :: lowerRuns,
      ¬ ((other.1 ≤ m && m ≤ other.2.1 && (m - other.1) % other.2.2.1 == 0) = true) := by
    intro other hother
    have hapart := List.all_eq_true.1 hall other hother
    simp only [isApart, Bool.or_eq_true, Bool.and_eq_true, Nat.blt_eq, beq_iff_eq,
      decide_eq_true_eq] at hapart ⊢
    rintro ⟨⟨hlow, hhigh⟩, hstep⟩
    rcases hapart with (hbefore | hafter) | ⟨⟨htwo, hsame⟩, hodd⟩
    · omega
    · omega
    · rw [htwo] at hstep
      rcases hsame with hsame | hsame
      · rw [hsame] at hwithin
        omega
      · omega
  constructor
  · rw [lowerShift, List.find?_eq_none.2 fun other hother =>
      hnone other (List.mem_cons_of_mem _ hother)]
  · rintro rfl
    exact hnone _ List.mem_cons_self rfl

theorem isLower_ofNat {n : Nat} (hsmall : 0x60 ≤ n) (hshift : lowerShift n = 0) (hn : n ≠ 0x130) :
    IsLower (Char.ofNat n) := by
  have hascii : ∀ n < 128, 0x60 ≤ n → (Char.ofNat n).toLower = Char.ofNat n := by decide
  by_cases hvalid : n.isValidChar
  · have htoNat := toNat_ofNat hvalid
    constructor
    · rw [lowerChar, htoNat, if_neg hn, hshift, Int.add_zero, Int.toNat_natCast]
      split_ifs with hfirst
      · rw [hascii n hfirst hsmall]
      · rfl
    · rw [Ne, eq_capitalSigma_iff, htoNat]
      rintro rfl
      exact absurd hshift (by decide +kernel)
  · rw [ofNat_of_not_isValidChar hvalid]
    decide

theorem isLower_of_mem_lowerChar {d : Char} (hd : d ∈ lowerChar c) : IsLower d := by
  have hascii : ∀ n < 128, IsLower (Char.ofNat n).toLower := by decide
  unfold lowerChar at hd
  split_ifs at hd with hsmall hdotted
  · obtain rfl := List.mem_singleton.1 hd
    have hc := hascii c.toNat hsmall
    rwa [Char.ofNat_toNat] at hc
  · rcases List.mem_pair.1 hd with rfl | rfl <;> decide +kernel
  · obtain rfl := List.mem_singleton.1 hd
    have hbound := lowerShift_bound (n := c.toNat) (by omega)
    by_cases hmoved : lowerShift c.toNat = 0
    · rw [hmoved, Int.add_zero, Int.toNat_natCast]
      exact isLower_ofNat (by omega) hmoved hdotted
    · obtain ⟨hshift, hother⟩ := lowerShift_of_ne_zero hmoved (Int.toNat_of_nonneg (by omega))
      exact isLower_ofNat (by omega) hshift hother

theorem isLower_of_mem_lowerChars {cs : List Char} {afterCased : Bool}
    (h : c ∈ lowerChars afterCased cs) : IsLower c := by
  induction cs generalizing afterCased with
  | nil => cases h
  | cons d cs ih =>
    rw [lowerChars, List.mem_append] at h
    rcases h with h | h
    · split_ifs at h
      · obtain rfl := List.mem_singleton.1 h
        decide +kernel
      · obtain rfl := List.mem_singleton.1 h
        decide +kernel
      · exact isLower_of_mem_lowerChar h
    · exact ih h

theorem lower_of_isLower {text : String} (h : ∀ c ∈ text.toList, IsLower c) :
    lower text = text := by
  have hsigma : capitalSigma ∉ text.toList := fun hmem => (h _ hmem).2 rfl
  rw [lower, lowerChars_of_notMem hsigma, ← String.toList_inj, String.toList_ofList]
  conv_rhs => rw [← List.flatMap_singleton' text.toList]
  exact List.flatMap_congr fun c hc => (h c hc).1

theorem lower_lower (text : String) : lower (lower text) = lower text := by
  refine lower_of_isLower fun c hc => ?_
  rw [lower, String.toList_ofList] at hc
  exact isLower_of_mem_lowerChars hc

/-! ### Blanks at the ends -/

/-- No letter is moved to a blank. -/
theorem lowerRuns_besideBlanks : (lowerRuns.all fun run => blankRanges.all fun range =>
    decide (range.2 < (run.1 : Int) + run.2.2.2) ||
      decide ((run.2.1 : Int) + run.2.2.2 < range.1)) = true := by
  decide +kernel

theorem isBlank_of_lowerShift {n : Nat} {d : Char} (hmoved : lowerShift n ≠ 0)
    (hd : (d.toNat : Int) = n + lowerShift n) : isBlank d = false := by
  obtain ⟨run, hrun, hwithin⟩ := exists_lowerRun hmoved
  rw [hwithin.2.2.2] at hd
  have hbeside := List.all_eq_true.1 lowerRuns_besideBlanks run hrun
  rw [isBlank, CodeRanges.has, List.any_eq_false]
  intro range hrange hinside
  have hapart := List.all_eq_true.1 hbeside range hrange
  simp only [Bool.and_eq_true, Bool.or_eq_true, decide_eq_true_eq] at hinside hapart
  omega

/-- Lower case makes no blank. -/
theorem isBlank_of_mem_lowerChar {d : Char} (hc : isBlank c = false) (hd : d ∈ lowerChar c) :
    isBlank d = false := by
  unfold lowerChar at hd
  split_ifs at hd with hascii hdotted
  · obtain rfl := List.mem_singleton.1 hd
    rcases toLower_isAlpha_or_eq c with ⟨-, halpha⟩ | hsame
    · exact isBlank_of_isNameCharacter (by simp [isNameCharacter, Char.isAlphanum, halpha])
    · rwa [hsame]
  · rcases List.mem_pair.1 hd with rfl | rfl <;> decide +kernel
  · obtain rfl := List.mem_singleton.1 hd
    by_cases hmoved : lowerShift c.toNat = 0
    · rwa [hmoved, Int.add_zero, Int.toNat_natCast, Char.ofNat_toNat]
    · have hbound := lowerShift_bound (n := c.toNat) (by omega)
      by_cases hvalid : (Int.toNat (c.toNat + lowerShift c.toNat)).isValidChar
      · refine isBlank_of_lowerShift hmoved ?_
        rw [toNat_ofNat hvalid]
        omega
      · rw [ofNat_of_not_isValidChar hvalid]
        decide

/-- What becomes of one character is not empty, and it holds a blank only if the character is
one. -/
theorem exists_lowerChars_cons (c : Char) (cs : List Char) (afterCased : Bool) :
    ∃ first rest afterCased', lowerChars afterCased (c :: cs) =
        first :: rest ++ lowerChars afterCased' cs ∧
      (isBlank c = false → ∀ d ∈ first :: rest, isBlank d = false) := by
  obtain ⟨first, rest, hpiece⟩ : ∃ first rest, lowerChar c = first :: rest := by
    unfold lowerChar
    split_ifs <;> exact ⟨_, _, rfl⟩
  rw [lowerChars]
  by_cases hsigma : c.toNat = 0x3A3
  · refine ⟨_, [], _, by rw [if_pos hsigma], fun _ d hd => ?_⟩
    obtain rfl := List.mem_singleton.1 hd
    split_ifs <;> decide +kernel
  · refine ⟨first, rest, _, by rw [if_neg hsigma, hpiece], fun hc d hd => ?_⟩
    exact isBlank_of_mem_lowerChar hc (hpiece ▸ hd)

theorem isBlank_head?_trim {text : String} (h : (trim text).toList.head? = some c) :
    isBlank c = false := by
  rw [trim, String.toList_ofList] at h
  obtain ⟨rest, hrest⟩ := List.rdropWhile_prefix isBlank (text.toList.dropWhile isBlank)
  have hfirst : (text.toList.dropWhile isBlank).head? = some c := by
    rw [← hrest, List.head?_append]
    exact congrArg (·.or rest.head?) h
  have hdropped := List.head?_dropWhile_not isBlank text.toList
  rwa [hfirst] at hdropped

theorem isBlank_getLast?_trim {text : String} (h : (trim text).toList.getLast? = some c) :
    isBlank c = false := by
  rw [trim, String.toList_ofList] at h
  obtain ⟨hne, rfl⟩ := List.mem_getLast?_eq_getLast h
  exact Bool.eq_false_iff.2 (List.rdropWhile_last_not isBlank _ hne)

/-- A trimmed text has no blank at its ends in lower case either. -/
theorem trim_lower_trim (text : String) : trim (lower (trim text)) = lower (trim text) := by
  have hlower : (lower (trim text)).toList = lowerChars false (trim text).toList := by
    rw [lower, String.toList_ofList]
  refine trim_eq_self (fun d hd => ?_) (fun d hd => ?_)
  · rw [hlower] at hd
    cases hcs : (trim text).toList with
    | nil => simp [hcs, lowerChars] at hd
    | cons c cs =>
      obtain ⟨first, rest, afterCased', hpiece, hblank⟩ := exists_lowerChars_cons c cs false
      rw [hcs, hpiece] at hd
      obtain rfl : first = d := Option.some.inj hd
      exact hblank (isBlank_head?_trim (by rw [hcs]; rfl)) _ List.mem_cons_self
  · rw [hlower] at hd
    rcases List.eq_nil_or_concat (trim text).toList with hcs | ⟨cs, c, hcs⟩
    · simp [hcs, lowerChars] at hd
    · obtain ⟨front, afterCased, hfront⟩ := exists_lowerChars_append cs [c] false
      obtain ⟨first, rest, afterCased', hpiece, hblank⟩ := exists_lowerChars_cons c [] afterCased
      have hlast : (trim text).toList.getLast? = some c := by simp [hcs]
      rw [hcs, List.concat_eq_append, hfront, hpiece, lowerChars, List.append_nil] at hd
      have hmem : d ∈ first :: rest := by
        rw [Option.mem_def, List.getLast?_append_of_ne_nil _ (List.cons_ne_nil _ _)] at hd
        exact List.mem_of_getLast? hd
      exact hblank (isBlank_getLast?_trim hlast) d hmem

end ListingFilter.Text
