import Mathlib.Data.List.Basic
import ListingFilter.Text.Substring
/-!
# Balanced parentheses

A text is balanced if every parenthesis in it is closed and none is closed that was not opened.
Inside parentheses a balanced text cannot end them, so what stands around it stays around it: the
text outside all parentheses is found without looking into them.
-/

namespace ListingFilter

namespace Sql

/-- The number of open parentheses after `c`, of `depth` before it; nothing if `c` closes one that
is not open. -/
def depthStep (depth : Nat) (c : Char) : Option Nat :=
  if c = '(' then some (depth + 1)
  else if c = ')' then
    match depth with
    | 0 => none
    | depth + 1 => some depth
  else some depth

def depthAfter (depth : Nat) (cs : List Char) : Option Nat := cs.foldlM depthStep depth

def IsBalanced (text : String) : Prop := depthAfter 0 text.toList = some 0

instance (text : String) : Decidable (IsBalanced text) :=
  inferInstanceAs (Decidable (depthAfter 0 text.toList = some 0))

theorem depthAfter_append (depth : Nat) (front back : List Char) :
    depthAfter depth (front ++ back) =
      (depthAfter depth front).bind fun depth => depthAfter depth back :=
  List.foldlM_append

theorem depthStep_add {depth after : Nat} {c : Char} (h : depthStep depth c = some after)
    (around : Nat) : depthStep (depth + around) c = some (after + around) := by
  simp only [depthStep] at h ⊢
  split_ifs at h ⊢ with hopen hclose
  · obtain rfl := Option.some.inj h
    rw [Nat.add_right_comm]
  · cases depth with
    | zero => cases h
    | succ depth =>
      obtain rfl : depth = after := Option.some.inj h
      rw [Nat.add_right_comm]
  · obtain rfl := Option.some.inj h
    rfl

/-- Parentheses that are open around a text do not matter to it. -/
theorem depthAfter_add {depth after : Nat} {cs : List Char} (h : depthAfter depth cs = some after)
    (around : Nat) : depthAfter (depth + around) cs = some (after + around) := by
  induction cs generalizing depth with
  | nil =>
    obtain rfl : depth = after := Option.some.inj h
    rfl
  | cons c cs ih =>
    obtain ⟨middle, hstep, hrest⟩ := Option.bind_eq_some_iff.1 h
    exact Option.bind_eq_some_iff.2 ⟨middle + around, depthStep_add hstep around, ih hrest⟩

theorem depthAfter_of_isBalanced {text : String} (h : IsBalanced text) (depth : Nat) :
    depthAfter depth text.toList = some depth := by
  simpa using depthAfter_add h depth

theorem depthStep_of_plain {c : Char} (h : c ≠ '(' ∧ c ≠ ')') (depth : Nat) :
    depthStep depth c = some depth := by
  simp only [depthStep, if_neg h.1, if_neg h.2]

theorem depthAfter_of_plain {cs : List Char} (h : ∀ c ∈ cs, c ≠ '(' ∧ c ≠ ')')
    (depth : Nat) : depthAfter depth cs = some depth := by
  induction cs with
  | nil => rfl
  | cons c cs ih =>
    have hrest := ih fun d hd => h d (List.mem_cons_of_mem c hd)
    exact Option.bind_eq_some_iff.2
      ⟨depth, depthStep_of_plain (h c List.mem_cons_self) depth, hrest⟩

/-! ### The text outside all parentheses -/

/-- The characters outside all parentheses, `depth` of which are open. -/
def outerChars (depth : Nat) : List Char → List Char
  | [] => []
  | c :: cs =>
    match depthStep depth c with
    | some after => (if depth = 0 ∧ after = 0 then [c] else []) ++ outerChars after cs
    | none => c :: outerChars depth cs

def outerText (text : String) : String := String.ofList (outerChars 0 text.toList)

theorem outerChars_plain {cs : List Char} (h : ∀ c ∈ cs, c ≠ '(' ∧ c ≠ ')') (rest : List Char) :
    outerChars 0 (cs ++ rest) = cs ++ outerChars 0 rest := by
  induction cs with
  | nil => rfl
  | cons c cs ih =>
    simp only [List.cons_append, outerChars, depthStep_of_plain (h c List.mem_cons_self),
      ih fun d hd => h d (List.mem_cons_of_mem c hd)]
    rfl

/-- Inside parentheses nothing is outside, up to the one that closes them. -/
theorem outerChars_inside {depth after : Nat} {cs : List Char}
    (h : depthAfter depth cs = some after) (rest : List Char) :
    outerChars (depth + 1) (cs ++ rest) = outerChars (after + 1) rest := by
  induction cs generalizing depth with
  | nil =>
    obtain rfl : depth = after := Option.some.inj h
    rfl
  | cons c cs ih =>
    obtain ⟨middle, hstep, hrest⟩ := Option.bind_eq_some_iff.1 h
    simp only [List.cons_append, outerChars, depthStep_add hstep 1, ih hrest]
    simp

theorem outerChars_parenthesised {text : String} (h : IsBalanced text) (rest : List Char) :
    outerChars 0 (("(" ++ text ++ ")").toList ++ rest) = outerChars 0 rest := by
  have hcs : ("(" ++ text ++ ")").toList ++ rest = '(' :: (text.toList ++ ')' :: rest) := by simp
  rw [hcs]
  exact outerChars_inside h (')' :: rest)

/-- Of balanced texts in parentheses only what joins them is outside. -/
theorem outerChars_intercalate {separator body : String} {bodies : List String}
    (hseparator : ∀ c ∈ separator.toList, c ≠ '(' ∧ c ≠ ')')
    (h : ∀ text ∈ body :: bodies, IsBalanced text) :
    outerChars 0
        (String.intercalate separator
          ((body :: bodies).map fun text => "(" ++ text ++ ")")).toList =
      (List.replicate bodies.length separator.toList).flatten := by
  induction bodies generalizing body with
  | nil => simpa [outerChars] using outerChars_parenthesised (h body List.mem_cons_self) []
  | cons next bodies ih =>
    have hrest := ih fun text hmem => h text (List.mem_cons_of_mem body hmem)
    rw [List.map_cons] at hrest
    rw [List.map_cons, List.map_cons, String.intercalate_cons_cons, String.toList_append,
      String.toList_append, List.append_assoc,
      outerChars_parenthesised (h body List.mem_cons_self), outerChars_plain hseparator, hrest]
    rfl

end Sql

/-! ### Substitution -/

namespace Text

theorem mem_substituteChars {slot value cs : List Char} {c : Char}
    (h : c ∈ substituteChars slot value cs) : c ∈ value ∨ c ∈ cs := by
  fun_induction substituteChars slot value cs with
  | case1 => cases h
  | case2 d rest hprefix ih =>
    rcases List.mem_append.1 h with h | h
    · exact .inl h
    · exact (ih h).imp_right fun h => List.mem_cons_of_mem d (List.mem_of_mem_drop h)
  | case3 d rest hprefix ih =>
    rcases List.mem_cons.1 h with rfl | h
    · exact .inr List.mem_cons_self
    · exact (ih h).imp_right (List.mem_cons_of_mem d)

/-- What stands after a slot at the beginning. -/
theorem eq_slot_append_drop {slot rest : List Char} {c : Char} (hne : slot ≠ [])
    (h : slot.isPrefixOf (c :: rest) = true) : c :: rest = slot ++ rest.drop (slot.length - 1) := by
  obtain ⟨back, hback⟩ := List.isPrefixOf_iff_prefix.1 h
  obtain ⟨d, slot, rfl⟩ := List.exists_cons_of_ne_nil hne
  obtain ⟨rfl, rfl⟩ := List.cons.inj hback
  simp

/-- A slot and a value without parentheses leave the depth as it is. -/
theorem depthAfter_substituteChars {slot value cs : List Char} (hne : slot ≠ [])
    (hslot : ∀ c ∈ slot, c ≠ '(' ∧ c ≠ ')') (hvalue : ∀ c ∈ value, c ≠ '(' ∧ c ≠ ')')
    (depth : Nat) :
    Sql.depthAfter depth (substituteChars slot value cs) = Sql.depthAfter depth cs := by
  fun_induction substituteChars slot value cs generalizing depth with
  | case1 => rfl
  | case2 c rest hprefix ih =>
    rw [eq_slot_append_drop hne hprefix, Sql.depthAfter_append, Sql.depthAfter_of_plain hvalue,
      Sql.depthAfter_append, Sql.depthAfter_of_plain hslot]
    exact ih depth
  | case3 c rest hprefix ih =>
    have hcons : ∀ cs, Sql.depthAfter depth (c :: cs) =
        (Sql.depthStep depth c).bind fun depth => Sql.depthAfter depth cs := fun cs => rfl
    rw [hcons, hcons]
    exact Option.bind_congr fun after _ => ih after

end Text

end ListingFilter
