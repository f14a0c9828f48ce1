import Mathlib.Data.List.Find
import ListingFilter.Proofs.CompilationFailures
import ListingFilter.Proofs.Parentheses
/-!
# Texts with slots for the table

Column expressions are written for any table, which stands in their slots. If every brace that opens
in a text begins such a slot, the slots of a text made of several ones are those of its pieces, so
the table can be put into the pieces or into the whole.
-/

namespace ListingFilter

namespace Text

/-! ### Substitution -/

section Substitution

variable {slot value cs : List Char}

theorem substituteChars_slot (hne : slot ≠ []) (value cs : List Char) :
    substituteChars slot value (slot ++ cs) = value ++ substituteChars slot value cs := by
  obtain ⟨c, rest, rfl⟩ := List.exists_cons_of_ne_nil hne
  have hprefix : (c :: rest).isPrefixOf (c :: (rest ++ cs)) = true :=
    List.isPrefixOf_iff_prefix.2 (List.prefix_append (c :: rest) cs)
  rw [List.cons_append, substituteChars, if_pos hprefix]
  simp

theorem substituteChars_cons {c : Char} (h : ¬ slot.isPrefixOf (c :: cs) = true) :
    substituteChars slot value (c :: cs) = c :: substituteChars slot value cs := by
  rw [substituteChars, if_neg h]

/-- A character that is not in the slot stays. -/
theorem mem_substituteChars_of_mem {c : Char} (hne : slot ≠ []) (hslot : c ∉ slot) (h : c ∈ cs) :
    c ∈ substituteChars slot value cs := by
  fun_induction substituteChars slot value cs with
  | case1 => cases h
  | case2 d rest hprefix ih =>
    rw [eq_slot_append_drop hne hprefix] at h
    exact List.mem_append_right _ (ih ((List.mem_append.1 h).resolve_left hslot))
  | case3 d rest hprefix ih =>
    rcases List.mem_cons.1 h with rfl | h
    · exact List.mem_cons_self
    · exact List.mem_cons_of_mem d (ih h)

/-- Nothing is left of a text only if there was nothing. -/
theorem substituteChars_eq_nil_iff (hvalue : value ≠ []) :
    substituteChars slot value cs = [] ↔ cs = [] := by
  cases cs with
  | nil => simp [substituteChars]
  | cons c rest =>
    rw [substituteChars]
    split_ifs <;> simp [hvalue]

end Substitution

/-! ### Slots of the table -/

theorem tableSlot_toList : tableSlot.toList = ['\x7b', 't', 'a', 'b', 'l', 'e', '\x7d'] := by
  decide +kernel

theorem tableSlot_ne_nil : tableSlot.toList ≠ [] := by simp [tableSlot_toList]

/-- Another character than a brace begins no slot, whatever stands after it. -/
theorem not_isPrefixOf_of_ne {c : Char} (h : c ≠ '\x7b') (rest : List Char) :
    ¬ tableSlot.toList.isPrefixOf (c :: rest) = true := by
  rw [tableSlot_toList, List.isPrefixOf_cons_cons]
  simp [h.symm]

/-- Every brace that opens begins a slot of the table. -/
def opensOnlySlots : List Char → Bool
  | [] => true
  | c :: rest => (c != '\x7b' || tableSlot.toList.isPrefixOf (c :: rest)) && opensOnlySlots rest

theorem opensOnlySlots_of_notMem {cs : List Char} (h : '\x7b' ∉ cs) : opensOnlySlots cs = true := by
  induction cs with
  | nil => rfl
  | cons c rest ih =>
    obtain ⟨hne, hrest⟩ := List.ne_and_not_mem_of_not_mem_cons h
    simp [opensOnlySlots, hne.symm, ih hrest]

theorem opensOnlySlots_append {front back : List Char} (hfront : opensOnlySlots front = true)
    (hback : opensOnlySlots back = true) : opensOnlySlots (front ++ back) = true := by
  induction front with
  | nil => exact hback
  | cons c rest ih =>
    simp only [opensOnlySlots, Bool.and_eq_true, Bool.or_eq_true] at hfront
    obtain ⟨hslot, hrest⟩ := hfront
    have hlonger : tableSlot.toList.isPrefixOf (c :: rest) = true →
        tableSlot.toList.isPrefixOf (c :: (rest ++ back)) = true := by
      rw [List.isPrefixOf_iff_prefix, List.isPrefixOf_iff_prefix]
      exact fun hprefix => hprefix.trans (List.prefix_append (c :: rest) back)
    simp only [List.cons_append, opensOnlySlots, Bool.and_eq_true, Bool.or_eq_true]
    exact ⟨hslot.imp_right hlonger, ih hrest⟩

theorem opensOnlySlots_of_append {front back : List Char}
    (h : opensOnlySlots (front ++ back) = true) : opensOnlySlots back = true := by
  induction front with
  | nil => exact h
  | cons c rest ih => exact ih (Bool.and_eq_true_iff.1 h).2

/-- The table can be put into two texts one after the other. -/
theorem substituteChars_append {front : List Char} (h : opensOnlySlots front = true)
    (table back : List Char) :
    substituteChars tableSlot.toList table (front ++ back) =
      substituteChars tableSlot.toList table front ++
        substituteChars tableSlot.toList table back := by
  fun_induction substituteChars tableSlot.toList table front with
  | case1 => rfl
  | case2 c rest hprefix ih =>
    have hsplit := eq_slot_append_drop tableSlot_ne_nil hprefix
    rw [hsplit] at h
    rw [hsplit, List.append_assoc, substituteChars_slot tableSlot_ne_nil,
      ih (opensOnlySlots_of_append h), List.append_assoc]
  | case3 c rest hprefix ih =>
    simp only [opensOnlySlots, Bool.and_eq_true, Bool.or_eq_true] at h
    have hne : c ≠ '\x7b' := bne_iff_ne.1 (h.1.resolve_right hprefix)
    rw [List.cons_append, substituteChars_cons (not_isPrefixOf_of_ne hne (rest ++ back)), ih h.2,
      List.cons_append]

theorem substituteChars_of_notMem {cs : List Char} (h : '\x7b' ∉ cs) (table : List Char) :
    substituteChars tableSlot.toList table cs = cs := by
  induction cs with
  | nil => simp [substituteChars]
  | cons c rest ih =>
    obtain ⟨hne, hrest⟩ := List.ne_and_not_mem_of_not_mem_cons h
    rw [substituteChars_cons (not_isPrefixOf_of_ne hne.symm rest), ih hrest]

end Text

/-! ### Texts that name the table -/

/-- `named` is `text` with `table` in its slots, and no other braces open in `text`. -/
structure NamesTable (table text named : String) : Prop where
  opens : Text.opensOnlySlots text.toList = true
  eq_substitute : named = Text.substitute tableSlot table text

namespace NamesTable

variable {table text named text' named' : String}

/-- A text without braces names no table. -/
theorem plain (table : String) (h : '\x7b' ∉ text.toList) : NamesTable table text text where
  opens := Text.opensOnlySlots_of_notMem h
  eq_substitute := by
    rw [Text.substitute, Text.substituteChars_of_notMem h, String.ofList_toList]

theorem slot (table : String) : NamesTable table tableSlot table where
  opens := by
    rw [Text.tableSlot_toList]
    decide
  eq_substitute := by
    have hslot := Text.substituteChars_slot Text.tableSlot_ne_nil table.toList []
    rw [List.append_nil, Text.substituteChars, List.append_nil] at hslot
    rw [Text.substitute, hslot, String.ofList_toList]

theorem append (h : NamesTable table text named) (h' : NamesTable table text' named') :
    NamesTable table (text ++ text') (named ++ named') where
  opens := by
    rw [String.toList_append]
    exact Text.opensOnlySlots_append h.opens h'.opens
  eq_substitute := by
    rw [h.eq_substitute, h'.eq_substitute, Text.substitute, Text.substitute, Text.substitute,
      String.toList_append, Text.substituteChars_append h.opens, String.ofList_append]

theorem append_plain (h : NamesTable table text named) (hplain : '\x7b' ∉ text'.toList) :
    NamesTable table (text ++ text') (named ++ text') :=
  h.append (plain table hplain)

theorem plain_append (h : NamesTable table text named) (hplain : '\x7b' ∉ text'.toList) :
    NamesTable table (text' ++ text) (text' ++ named) :=
  (plain table hplain).append h

theorem intercalate {separator : String} (hseparator : '\x7b' ∉ separator.toList)
    {texts named : List String} (h : List.Forall₂ (NamesTable table) texts named) :
    NamesTable table (String.intercalate separator texts) (String.intercalate separator named) := by
  induction h with
  | nil => exact plain table (by simp)
  | @cons text named texts others hfirst hrest ih =>
    cases hrest with
    | nil => simpa using hfirst
    | cons hnext hmore =>
      rw [String.intercalate_cons_cons, String.intercalate_cons_cons]
      exact (hfirst.append_plain hseparator).append ih

theorem flatten {texts named : List (List Char)}
    (h : List.Forall₂ (fun cs cs' => NamesTable table (String.ofList cs) (String.ofList cs'))
      texts named) :
    NamesTable table (String.ofList texts.flatten) (String.ofList named.flatten) := by
  induction h with
  | nil => exact plain table (by simp)
  | cons hfirst hrest ih =>
    rw [List.flatten_cons, List.flatten_cons, String.ofList_append, String.ofList_append]
    exact hfirst.append ih

theorem eq_empty_iff (htable : table ≠ "") (h : NamesTable table text named) :
    named = "" ↔ text = "" := by
  have hchars : table.toList ≠ [] := by simpa using htable
  rw [h.eq_substitute, Text.substitute, ← String.toList_inj, String.toList_ofList,
    String.toList_empty, Text.substituteChars_eq_nil_iff hchars]
  simp

end NamesTable

/-! ### Columns for any table -/

/-- The expression of the column names its table in slots only. With a slot it is qualified, so it
is no name that a column could have. -/
structure Column.IsOpen (column : Column) : Prop where
  slots : Text.opensOnlySlots column.select.toList = true
  qualified : '\x7b' ∈ column.select.toList → '.' ∈ column.select.toList

namespace ResourceType

variable {column : Column} {name : String}

theorem namesTable_bindColumn (h : column.IsOpen) (table : String) :
    NamesTable table column.select (bindColumn table column).select :=
  ⟨h.slots, rfl⟩

/-- An expression is a name in all tables or in none. -/
theorem select_bindColumn_eq_iff (h : column.IsOpen) (hname : '.' ∉ name.toList) (table : String) :
    (bindColumn table column).select = name ↔ column.select = name := by
  by_cases hbrace : '\x7b' ∈ column.select.toList
  · have hqualified := h.qualified hbrace
    have hbound : '.' ∈ (bindColumn table column).select.toList := by
      rw [bindColumn, Text.substitute, String.toList_ofList]
      exact Text.mem_substituteChars_of_mem Text.tableSlot_ne_nil (by simp [Text.tableSlot_toList])
        hqualified
    exact iff_of_false (fun heq => hname (heq ▸ hbound)) fun heq => hname (heq ▸ hqualified)
  · have hsame : (bindColumn table column).select = column.select :=
      (NamesTable.plain table hbrace).eq_substitute.symm
    rw [hsame]

theorem findIn?_bindColumn {columns : List Column} (h : ∀ column ∈ columns, column.IsOpen)
    (hname : '.' ∉ name.toList) (table : String) :
    Column.findIn? (columns.map (bindColumn table)) name =
      (Column.findIn? columns name).map (bindColumn table) := by
  have hselect : (columns.map (bindColumn table)).find? (·.select == name) =
      (columns.find? (·.select == name)).map (bindColumn table) := by
    rw [List.find?_map]
    refine congrArg _ (List.find?_congr fun column hcolumn => ?_)
    rw [Bool.eq_iff_iff, Function.comp, beq_iff_eq, beq_iff_eq]
    exact select_bindColumn_eq_iff (h column hcolumn) hname table
  rw [Column.findIn?, Column.findIn?, find?_bindColumn, hselect, Option.map_or]

/-- A name refers to the same column in all tables. -/
theorem resolve?_bindColumn {selected filtered : List Column}
    (h : ∀ column ∈ selected ++ filtered, column.IsOpen) (hname : '.' ∉ name.toList)
    (table : String) :
    Column.resolve? (selected.map (bindColumn table)) (filtered.map (bindColumn table)) name =
      (Column.resolve? selected filtered name).map (bindColumn table) := by
  rw [Column.resolve?, Column.resolve?]
  split_ifs
  · rfl
  · rw [findIn?_bindColumn (fun column hmem => h column (List.mem_append_left _ hmem)) hname,
      findIn?_bindColumn (fun column hmem => h column (List.mem_append_right _ hmem)) hname,
      Option.map_or]

end ResourceType

end ListingFilter
