import ListingFilter.Proofs.DeclaredNames
import ListingFilter.Proofs.Entries
/-!
# The order declares no parameter

The terms of an order are made of declared expressions, the names of tables and templates. A
template may cast, with two colons. What a template pairs stays paired when its slots are filled, so
no term of an order holds a colon that could begin a name.
-/

namespace ListingFilter

open Sql (PairsColons pairStep pairsColons_of_notMem)

/-! ### Templates -/

namespace Sql.Template

/-- A slot that stands for its value as it is. -/
def Slot.IsPlain (slot : Slot) : Prop := slot.path = [] ∧ slot.conversion = none ∧ slot.layout = []

instance (slot : Slot) : Decidable slot.IsPlain :=
  inferInstanceAs (Decidable (_ ∧ _ ∧ _))

/-- Whether a colon waits for its second one after a piece. None may wait for it at a slot. -/
def pairPiece (waits : Bool) : Piece → Option Bool
  | .text c => pairStep waits c
  | .slot slot => if waits = false ∧ slot.IsPlain then some false else none
  | .broken => none

/-- The slots of the template are plain, and outside of them colons stand in pairs only. -/
def KeepsPairs (cs : List Char) : Prop := (pieces .text cs).foldlM pairPiece false = some false

instance (cs : List Char) : Decidable (KeepsPairs cs) :=
  inferInstanceAs (Decidable ((pieces .text cs).foldlM pairPiece false = some false))

/-- A plain slot is filled with its value, or with the word for a missing one. -/
theorem fillPiece_of_isPlain {expand : List Char → Except Fault (List Char)} {values : Values}
    {slot : Slot} {cs : List Char} (hslot : slot.IsPlain)
    (h : fillPiece expand values (.slot slot) = .ok cs) :
    ∃ value, lookup? values (String.ofList slot.name) = some value ∧
      (value.getD missingText).toList = cs := by
  obtain ⟨hpath, hconversion, hlayout⟩ := hslot
  simp only [fillPiece, hconversion, hlayout] at h
  cases hvalue : valueOf values slot with
  | error fault => simp [hvalue] at h
  | ok value =>
    refine ⟨value, ?_, by simpa [hvalue, convert, layOut] using h⟩
    simp only [valueOf, hpath] at hvalue
    cases hposition : position? slot.name with
    | error fault => simp [hposition] at hvalue
    | ok position =>
      cases position with
      | some n => simp [hposition] at hvalue
      | none =>
        simp only [hposition] at hvalue
        split_ifs at hvalue
        cases hlookup : lookup? values (String.ofList slot.name) with
        | none => simp [hlookup] at hvalue
        | some found =>
          rw [hlookup] at hvalue
          obtain rfl : found = value := Except.ok.inj hvalue
          rfl

/-- Values that pair their colons leave the colons of a template in pairs. -/
theorem pairsColons_of_mapM {expand : List Char → Except Fault (List Char)} {values : Values}
    (hvalues : ∀ entry ∈ values, Sql.PairsColons (entry.2.getD missingText).toList)
    {pieces : List Piece} {filled : List (List Char)} {waits : Bool}
    (hpieces : pieces.foldlM pairPiece waits = some false)
    (h : pieces.mapM (fillPiece expand values) = .ok filled) :
    filled.flatten.foldlM pairStep waits = some false := by
  replace h := mapM_eq_ok_iff.1 h
  induction h generalizing waits with
  | nil => exact hpieces
  | @cons piece cs pieces filled hpiece hrest ih =>
    obtain ⟨next, hstep, hnext⟩ := Option.bind_eq_some_iff.1 hpieces
    rw [List.flatten_cons, List.foldlM_append]
    cases piece with
    | text c =>
      obtain rfl : [c] = cs := Except.ok.inj hpiece
      have hchar : [c].foldlM pairStep waits = some next := by
        rw [List.foldlM_cons, show pairStep waits c = some next from hstep]
        rfl
      exact Option.bind_eq_some_iff.2 ⟨next, hchar, ih hnext⟩
    | slot slot =>
      simp only [pairPiece] at hstep
      split_ifs at hstep with hslot
      obtain rfl := Option.some.inj hstep
      obtain ⟨rfl, hplain⟩ := hslot
      -- No colon waits at a slot, and none does after its value.
      obtain ⟨value, hvalue, rfl⟩ := fillPiece_of_isPlain hplain hpiece
      exact Option.bind_eq_some_iff.2 ⟨false, hvalues _ (mem_of_lookup? hvalue), ih hnext⟩
    | broken => cases hstep

theorem pairsColons_fill {values : Values} {template text : String}
    (hvalues : ∀ entry ∈ values, Sql.PairsColons (entry.2.getD missingText).toList)
    (htemplate : KeepsPairs template.toList) (h : fill values template = .ok text) :
    Sql.PairsColons text.toList := by
  obtain ⟨cs, hcs, rfl⟩ := map_eq_ok_iff.1 h
  obtain ⟨filled, hfilled, rfl⟩ := map_eq_ok_iff.1 hcs
  rw [String.toList_ofList]
  exact pairsColons_of_mapM hvalues htemplate hfilled

end Sql.Template

/-! ### Terms -/

/-- Nothing that a sort keyword refers to holds a colon outside of a pair. -/
structure SortScope.IsSound (scope : SortScope) : Prop where
  columns : ∀ column ∈ scope.selectColumns ++ scope.whereColumns,
    Sql.PairsColons column.select.toList
  table : ∀ table ∈ scope.table, Sql.PairsColons table.toList
  sorts : ∀ sort ∈ scope.sorts, Sql.Template.KeepsPairs sort.2.toList

section Terms

variable {scope : SortScope} {direction : String}

theorem pairsColons_append {front back : String} (hfront : PairsColons front.toList)
    (hback : PairsColons back.toList) : PairsColons (front ++ back).toList := by
  rw [String.toList_append]
  exact hfront.append hback

theorem pairsColons_intercalate {separator : String} (hseparator : PairsColons separator.toList)
    {texts : List String} (h : ∀ text ∈ texts, PairsColons text.toList) :
    PairsColons (String.intercalate separator texts).toList := by
  induction texts with
  | nil => exact pairsColons_of_notMem (by simp)
  | cons text texts ih =>
    obtain ⟨htext, htexts⟩ := List.forall_mem_cons.1 h
    cases texts with
    | nil => simpa using htext
    | cons second texts =>
      rw [String.intercalate_cons_cons]
      exact pairsColons_append (pairsColons_append htext hseparator) (ih htexts)

theorem pairsColons_sortDirection (column : String) :
    PairsColons (sortDirection column).toList := by
  unfold sortDirection
  split_ifs <;> decide +kernel

theorem pairsColons_plainTerm {column : Column} (hcolumn : PairsColons column.select.toList)
    (hdirection : PairsColons direction.toList) :
    PairsColons (plainTerm column direction).toList := by
  unfold plainTerm
  dsimp only
  split_ifs
  · exact pairsColons_append (pairsColons_append
      (pairsColons_append (by decide +kernel) hcolumn) (by decide +kernel)) hdirection
  · exact pairsColons_append (pairsColons_append
      (pairsColons_append (by decide +kernel) hcolumn) (by decide +kernel)) hdirection

theorem pairsColons_templateTerm? {field : String} {expr : Option String}
    {outcome : Except Fault String} {term : String} (hscope : scope.IsSound)
    (hdirection : PairsColons direction.toList) (hexpr : ∀ text ∈ expr, PairsColons text.toList)
    (houtcome : templateTerm? scope field direction expr = some outcome)
    (hterm : outcome = .ok term) : PairsColons term.toList := by
  have hmissing : PairsColons Sql.Template.missingText.toList := by decide +kernel
  have hvalue : ∀ value : Option String, (∀ text ∈ value, PairsColons text.toList) →
      PairsColons (value.getD Sql.Template.missingText).toList := by
    rintro (_ | text) h
    · exact hmissing
    · exact h text rfl
  unfold templateTerm? at houtcome
  cases htemplate : nonempty (lookup? scope.sorts field) with
  | none => simp [htemplate] at houtcome
  | some template =>
    simp only [htemplate] at houtcome
    split_ifs at houtcome
    obtain rfl := Option.some.inj houtcome
    have hfound : lookup? scope.sorts field = some template :=
      (Option.filter_eq_some_iff.1 htemplate).1
    refine Sql.Template.pairsColons_fill ?_ (hscope.sorts _ (mem_of_lookup? hfound)) hterm
    simp only [List.forall_mem_cons]
    exact ⟨hvalue _ hexpr, hvalue _ hscope.table, hvalue _ (by simpa using hdirection), by simp⟩

/-- Whatever the field of a sort keyword is, its term pairs its colons. -/
theorem pairsColons_orderTerm {primary : Bool} {field term : String}
    (hscope : scope.IsSound) (hdirection : PairsColons direction.toList)
    (h : orderTerm scope primary field direction = .ok (some term)) : PairsColons term.toList := by
  have hcolumn : ∀ column ∈ Column.resolve? scope.selectColumns scope.whereColumns field,
      PairsColons column.select.toList :=
    fun column hcolumn => hscope.columns column (mem_of_resolve? hcolumn)
  have hblank : PairsColons " ".toList := by decide +kernel
  unfold orderTerm at h
  dsimp only at h
  split_ifs at h
  · cases h
  · cases htemplate : templateTerm? scope field direction
        ((Column.resolve? scope.selectColumns scope.whereColumns field).map (·.select)) with
    | none =>
      rw [htemplate] at h
      obtain ⟨column, hfound, rfl⟩ := Option.map_eq_some_iff.1 (Except.ok.inj h)
      exact pairsColons_plainTerm (hcolumn column hfound) hdirection
    | some outcome =>
      rw [htemplate] at h
      obtain ⟨filled, houtcome, heq⟩ := map_eq_ok_iff.1 h
      obtain rfl := Option.some.inj heq
      refine pairsColons_templateTerm? hscope hdirection ?_ htemplate houtcome
      rintro _ hexpr
      obtain ⟨column, hfound, rfl⟩ := Option.map_eq_some_iff.1 hexpr
      exact hcolumn column hfound
  · obtain ⟨column, hfound, rfl⟩ := Option.map_eq_some_iff.1 (Except.ok.inj h)
    exact pairsColons_append (pairsColons_append (hcolumn column hfound) hblank) hdirection

end Terms

/-! ### Clauses -/

section Clauses

variable {scope : Scope} {draft next : Draft} {keyword : Keyword}

/-- A keyword adds at most one term to the order, that of a sort keyword. -/
theorem Draft.order_add (h : draft.add scope keyword = .ok next) :
    ∃ added : Option String, next.order = draft.order ++ added.toList ∧
      ∀ term ∈ added, ∃ primary field column,
        orderTerm scope.toSortScope primary field (sortDirection column) = .ok (some term) := by
  have hkeep : next.order = draft.order → ∃ added : Option String,
      next.order = draft.order ++ added.toList ∧ ∀ term ∈ added, ∃ primary field column,
        orderTerm scope.toSortScope primary field (sortDirection column) = .ok (some term) := by
    intro hsame
    exact ⟨none, by simpa using hsame, by simp⟩
  rcases Draft.add_cases h with ⟨operator, -, rfl⟩ | ⟨-, hterm⟩ | ⟨-, column, -, -, hcontrol⟩ |
    ⟨-, -, rfl⟩ | ⟨-, -, rfl⟩
  · exact hkeep rfl
  · obtain ⟨condition?, negated, bindings, -, rfl⟩ := Draft.addTerm_cases hterm
    exact hkeep rfl
  · unfold Draft.addControl at hcontrol
    split_ifs at hcontrol
    · cases hadded : orderTerm scope.toSortScope draft.order.isEmpty (Text.trim keyword.text)
          (sortDirection column) with
      | error fault => simp [hadded] at hcontrol
      | ok added =>
        rw [hadded] at hcontrol
        obtain rfl := Except.ok.inj hcontrol
        refine ⟨added, rfl, ?_⟩
        rintro term rfl
        exact ⟨_, _, _, hadded⟩
    · exact hkeep (by rw [← Except.ok.inj hcontrol])
    · exact hkeep (by rw [← Except.ok.inj hcontrol])
    · exact hkeep (by rw [← Except.ok.inj hcontrol])
  · exact hkeep rfl
  · exact hkeep rfl

theorem pairsColons_orderClause {terms : List String}
    (h : ∀ term ∈ terms, PairsColons term.toList) : PairsColons (orderClause terms).toList := by
  unfold orderClause
  split_ifs
  · decide +kernel
  · exact pairsColons_append (by decide +kernel) (pairsColons_intercalate (by decide +kernel) h)

/-- Whatever the keywords are, the order declares nothing. -/
theorem Clause.pairsColons_order {clause : Clause} (hscope : scope.toSortScope.IsSound)
    {keywords : List Keyword} (h : Clause.ofKeywords scope keywords = .ok clause) :
    PairsColons clause.order.toList := by
  obtain ⟨draft, hdraft, rfl⟩ := map_eq_ok_iff.1 h
  refine pairsColons_orderClause ?_
  refine @foldlM_preserves _ _ _
    (fun draft : Draft => ∀ term ∈ draft.order, PairsColons term.toList)
    _ _ _ _ ?_ (by simp [Draft.empty]) hdraft
  intro draft keyword next horder hnext term hterm
  obtain ⟨added, hadded, hterms⟩ := Draft.order_add hnext
  rw [hadded, List.mem_append, Option.mem_toList] at hterm
  rcases hterm with hterm | hterm
  · exact horder term hterm
  · obtain ⟨primary, field, column, hfound⟩ := hterms term hterm
    exact pairsColons_orderTerm hscope (pairsColons_sortDirection column) hfound

end Clauses

end ListingFilter
