import ListingFilter.Proofs.ConditionTables
import ListingFilter.Proofs.OrderComposition
import ListingFilter.Proofs.Registration
import ListingFilter.Proofs.UnknownColumns
/-!
# The table of a filter

What a filter is compiled against is open if the expressions and the sort templates hold the table
in slots only. With a table in its slots it gives the clause of the open scope with the table in its
slots: the table decides neither which column a name refers to nor which terms are left out. Rows in
the trash stand in a table of their own, so a filter on them is the filter on the other rows but for
the name of the table.
-/

namespace ListingFilter

open Sql (SideBySide)

/-! ### Sort templates -/

namespace Sql.Template

/-- The template can be filled, and no brace that opens in it is text. -/
def IsOpen (cs : List Char) : Prop :=
  ∀ piece ∈ pieces .text cs, piece.IsFillable ∧ piece ≠ .text '\x7b'

instance (cs : List Char) : Decidable (IsOpen cs) :=
  inferInstanceAs (Decidable (∀ piece ∈ pieces .text cs, piece.IsFillable ∧ piece ≠ .text '\x7b'))

variable {table : String} {values named : Values}

/-- The values are given for the same names, each in its own table. -/
def Values.IsNamed (table : String) (values named : Values) : Prop :=
  List.Forall₂ (fun entry entry' => entry.1 = entry'.1 ∧
    Option.Rel (NamesTable table) entry.2 entry'.2) values named

theorem Values.IsNamed.rel_lookup? (h : Values.IsNamed table values named) (name : String) :
    Option.Rel (Option.Rel (NamesTable table)) (lookup? values name) (lookup? named name) := by
  induction h with
  | nil => exact .none
  | @cons entry entry' values named hentry hrest ih =>
    obtain ⟨key, value⟩ := entry
    obtain ⟨_, value'⟩ := entry'
    obtain ⟨rfl, hvalue⟩ := hentry
    rw [lookup?_cons, lookup?_cons]
    split_ifs
    · exact .some hvalue
    · exact ih

theorem sameOutcome_fillPiece {expand expand' : List Char → Except Fault (List Char)}
    {piece : Piece} (h : Values.IsNamed table values named)
    (hnames : ∀ name ∈ slotNames, name ∈ keys values) (hfillable : piece.IsFillable)
    (hbrace : piece ≠ .text '\x7b') :
    SameOutcome (fun cs cs' => NamesTable table (String.ofList cs) (String.ofList cs'))
      (fillPiece expand values piece) (fillPiece expand' named piece) := by
  cases piece with
  | broken => exact hfillable.elim
  | text c =>
    have hne : '\x7b' ≠ c := fun heq => hbrace (by rw [heq])
    exact .ok (NamesTable.plain table (by simpa using hne))
  | slot slot =>
    have hlookup := h.rel_lookup? (String.ofList slot.name)
    generalize hfirst : lookup? values (String.ofList slot.name) = first at hlookup
    generalize hsecond : lookup? named (String.ofList slot.name) = second at hlookup
    cases hlookup with
    | none => exact absurd (hnames _ hfillable.2) (lookup?_eq_none_iff.1 hfirst)
    | some hvalue =>
      rw [fillPiece_slot hfillable hfirst, fillPiece_slot hfillable hsecond]
      refine .ok ?_
      rw [String.ofList_toList, String.ofList_toList]
      cases hvalue with
      | none => exact NamesTable.plain table (by decide +kernel)
      | some htext => exact htext

theorem sameOutcome_fill {template : String} (h : Values.IsNamed table values named)
    (hnames : ∀ name ∈ slotNames, name ∈ keys values) (htemplate : IsOpen template.toList) :
    SameOutcome (NamesTable table) (fill values template) (fill named template) := by
  have hpieces : SameOutcome (List.Forall₂ fun cs cs' =>
      NamesTable table (String.ofList cs) (String.ofList cs'))
      ((pieces .text template.toList).mapM (fillPiece (fillChars values 1) values))
      ((pieces .text template.toList).mapM (fillPiece (fillChars named 1) named)) :=
    SameOutcome.mapM fun piece hmem => by
      obtain ⟨hfillable, hbrace⟩ := htemplate piece hmem
      exact sameOutcome_fillPiece h hnames hfillable hbrace
  have hchars : SameOutcome (fun cs cs' => NamesTable table (String.ofList cs) (String.ofList cs'))
      (fillChars values 2 template.toList) (fillChars named 2 template.toList) :=
    hpieces.map fun _ _ htexts => NamesTable.flatten htexts
  exact hchars.map fun _ _ htext => htext

end Sql.Template

/-! ### What a filter is compiled against -/

/-- What a filter is compiled against stands for any table: the expressions and the sort templates
hold the table in slots, and no filter column looks like an expression with a slot. -/
structure Scope.IsOpen (scope : Scope) : Prop where
  table : scope.table = some tableSlot
  columns : ∀ column ∈ scope.selectColumns ++ scope.whereColumns, column.IsOpen
  names : ∀ name ∈ scope.filterColumns, '.' ∉ name.toList
  sorts : ∀ sort ∈ scope.sorts, Sql.Template.IsOpen sort.2.toList

/-- The scope with `table` in its slots. -/
def Scope.inTable (scope : Scope) (table : String) : Scope :=
  { scope with
    selectColumns := scope.selectColumns.map (ResourceType.bindColumn table)
    whereColumns := scope.whereColumns.map (ResourceType.bindColumn table)
    table := some table }

section Scopes

variable {scope : Scope} {table : String} {keyword : Keyword}

/-! ### The order -/

theorem isSome_nonempty_of_rel (htable : table ≠ "") {text named : Option String}
    (h : Option.Rel (NamesTable table) text named) :
    (nonempty named).isSome = (nonempty text).isSome := by
  rw [Bool.eq_iff_iff, nonempty_isSome_iff, nonempty_isSome_iff]
  cases h with
  | none => simp
  | some htext => simpa using not_congr (htext.eq_empty_iff htable)

theorem templateTerm?_inTable (h : scope.IsOpen) (htable : table ≠ "") (field : String)
    {direction : String} (hdirection : '\x7b' ∉ direction.toList) {expr expr' : Option String}
    (hexpr : Option.Rel (NamesTable table) expr expr') :
    Option.Rel (SameOutcome (NamesTable table))
      (templateTerm? scope.toSortScope field direction expr)
      (templateTerm? (scope.inTable table).toSortScope field direction expr') := by
  have hslot : Option.Rel (NamesTable table) scope.table (some table) := by
    rw [h.table]
    exact .some (NamesTable.slot table)
  unfold templateTerm?
  have hsorts : (scope.inTable table).sorts = scope.sorts := rfl
  have htables : (scope.inTable table).table = some table := rfl
  rw [hsorts, htables]
  cases htemplate : nonempty (lookup? scope.sorts field) with
  | none => exact .none
  | some template =>
    have hfound : lookup? scope.sorts field = some template :=
      (Option.filter_eq_some_iff.1 htemplate).1
    dsimp only
    simp only [isSome_nonempty_of_rel htable hexpr, isSome_nonempty_of_rel htable hslot]
    split_ifs
    · refine .some (Sql.Template.sameOutcome_fill ?_ (by simp [Sql.Template.slotNames, keys])
        (h.sorts _ (mem_of_lookup? hfound)))
      exact .cons ⟨rfl, hexpr⟩ (.cons ⟨rfl, hslot⟩
        (.cons ⟨rfl, .some (NamesTable.plain table hdirection)⟩ .nil))
    · exact .none

theorem namesTable_plainTerm {column : Column} (hcolumn : column.IsOpen) (table : String)
    {direction : String} (hdirection : '\x7b' ∉ direction.toList) :
    NamesTable table (plainTerm column direction)
      (plainTerm (ResourceType.bindColumn table column) direction) := by
  have hexpr := ResourceType.namesTable_bindColumn hcolumn table
  have htype : (ResourceType.bindColumn table column).type = column.type := rfl
  rw [plainTerm_eq, plainTerm_eq, htype]
  split_ifs
  · exact ((hexpr.plain_append (by simp)).append_plain (by simp)).append_plain hdirection
  · exact ((hexpr.plain_append (by simp)).append_plain (by simp)).append_plain hdirection

/-- A name that filters may use is that of a filter column, with or without an underscore. -/
theorem Scope.IsOpen.notMem_of_covers (h : scope.IsOpen) {field : String}
    (hcovers : scope.toSortScope.Covers field) : '.' ∉ field.toList := by
  rcases hcovers.2 with hmem | hmem
  · exact h.names field hmem
  · intro hdot
    exact h.names _ hmem (by simp [hdot])

/-- What is written of the column that a name refers to, in each table. -/
theorem Scope.IsOpen.rel_map_resolve? (h : scope.IsOpen) {field : String}
    (hfield : '.' ∉ field.toList) (text : Column → String)
    (htext : ∀ column : Column, column.IsOpen →
      NamesTable table (text column) (text (ResourceType.bindColumn table column))) :
    Option.Rel (NamesTable table)
      ((Column.resolve? scope.selectColumns scope.whereColumns field).map text)
      ((Column.resolve? (scope.inTable table).selectColumns (scope.inTable table).whereColumns
        field).map text) := by
  rw [Scope.inTable, ResourceType.resolve?_bindColumn h.columns hfield]
  cases hfound : Column.resolve? scope.selectColumns scope.whereColumns field with
  | none => exact .none
  | some column => exact .some (htext column (h.columns column (mem_of_resolve? hfound)))

theorem orderTerm_inTable (h : scope.IsOpen) (htable : table ≠ "") (primary : Bool)
    (field : String) {direction : String} (hdirection : '\x7b' ∉ direction.toList) :
    SameOutcome (Option.Rel (NamesTable table))
      (orderTerm scope.toSortScope primary field direction)
      (orderTerm (scope.inTable table).toSortScope primary field direction) := by
  have hnames : (scope.inTable table).filterColumns = scope.filterColumns := rfl
  unfold orderTerm
  rw [hnames]
  cases happlies : filterColumnApplies scope.filterColumns field with
  | false => exact .ok .none
  | true =>
    have hfield := h.notMem_of_covers (filterColumnApplies_iff.1 happlies)
    simp only [Bool.not_true, Bool.false_eq_true, if_false]
    split_ifs
    · have hexpr := h.rel_map_resolve? hfield (·.select) fun column hcolumn =>
        ResourceType.namesTable_bindColumn hcolumn table
      have htemplate := templateTerm?_inTable h htable field hdirection hexpr
      revert htemplate
      generalize templateTerm? scope.toSortScope field direction _ = first
      generalize templateTerm? (scope.inTable table).toSortScope field direction _ = second
      intro htemplate
      cases htemplate with
      | none => exact .ok (h.rel_map_resolve? hfield _ fun column hcolumn =>
          namesTable_plainTerm hcolumn table hdirection)
      | some hterm => exact hterm.map fun _ _ htext => .some htext
    · exact .ok (h.rel_map_resolve? hfield _ fun column hcolumn =>
        ((ResourceType.namesTable_bindColumn hcolumn table).append_plain (by simp)).append_plain
          hdirection)

/-! ### Terms -/

namespace Draft

theorem sideBySide_columnCondition (h : scope.IsOpen) (htable : table ≠ "") {column : String}
    (hcolumn : '.' ∉ column.toList) :
    SideBySide (Option.Rel (NamesTable table)) (columnCondition scope column keyword)
      (columnCondition (scope.inTable table) column keyword) := by
  have hslot := NamesTable.slot table
  have hopen : nonempty scope.table = some tableSlot := by
    rw [h.table]
    decide +kernel
  have hnamed : nonempty (scope.inTable table).table = some table :=
    Option.filter_eq_some_iff.2 ⟨rfl, by simpa using htable⟩
  have htype : (scope.inTable table).resourceType = scope.resourceType := rfl
  unfold columnCondition
  dsimp only
  rw [hopen, hnamed, htype]
  split_ifs with htag
  · exact Condition.sideBySide_onTagTerm hslot _ _
  · cases hreferenced : Condition.referencedType? column with
    | some type =>
      have htype := notMem_of_isIdentifiedType (c := '\x7b') (by decide) (by decide)
        (by decide +kernel) (isIdentifiedType_of_referencedType? hreferenced)
      exact (Condition.sideBySide_onReference hslot htype).map fun _ _ htext => .some htext
    | none =>
      dsimp only [Scope.inTable]
      rw [ResourceType.resolve?_bindColumn h.columns hcolumn]
      cases hfound : Column.resolve? scope.selectColumns scope.whereColumns column with
      | none => exact SideBySide.pure .none
      | some found =>
        exact Condition.sideBySide_onColumn (ResourceType.namesTable_bindColumn
          (h.columns found (mem_of_resolve? hfound)) table) _

theorem sideBySide_condition (h : scope.IsOpen) (htable : table ≠ "") (span : Span)
    (hcolumn : ∀ column ∈ keyword.column, '.' ∉ column.toList) :
    SideBySide (fun result result' => Option.Rel (NamesTable table) result.1 result'.1 ∧
      result.2 = result'.2)
      (condition scope span keyword) (condition (scope.inTable table) span keyword) := by
  unfold condition
  cases hname : keyword.column with
  | none =>
    refine (sideBySide_freeTextProbes h.columns _ _ h.names).bind fun probes probes' hprobes => ?_
    exact SideBySide.pure ⟨namesTable_freeTextCondition span.negated hprobes, rfl⟩
  | some column =>
    refine (sideBySide_columnCondition h htable (hcolumn column hname)).bind
      fun condition? condition?' hcondition => ?_
    exact SideBySide.pure ⟨hcondition, rfl⟩

/-! ### Drafts -/

/-- The drafts differ by the table in their conditions and their order only. -/
structure IsNamed (table : String) (draft named : Draft) : Prop where
  bindings : draft.bindings = named.bindings
  numbered : draft.bindings.IsNumbered
  terms : List.Forall₂ (fun term term' => term.1 = term'.1 ∧ NamesTable table term.2 term'.2)
    draft.terms named.terms
  span : draft.span = named.span
  order : List.Forall₂ (NamesTable table) draft.order named.order
  first : draft.first = named.first
  max : draft.max = named.max
  permissions : draft.permissions = named.permissions
  owner : draft.owner = named.owner

variable {draft named : Draft}

theorem IsNamed.addTerm (hdraft : draft.IsNamed table named) (h : scope.IsOpen)
    (htable : table ≠ "") (hcolumn : ∀ column ∈ keyword.column, '.' ∉ column.toList) :
    SameOutcome (IsNamed table) (draft.addTerm scope keyword)
      (named.addTerm (scope.inTable table) keyword) := by
  unfold Draft.addTerm
  rw [← hdraft.span, ← hdraft.bindings]
  rcases (sideBySide_condition h htable draft.span hcolumn hdraft.numbered).cases with
    ⟨fault, hfirst, hsecond⟩ |
    ⟨⟨⟨condition?, negated⟩, bindings⟩, ⟨⟨condition?', _⟩, _⟩, hfirst, hsecond,
      ⟨hcondition, rfl⟩, rfl, hnumbered⟩
  · rw [hfirst, hsecond]
    exact .error fault
  · rw [hfirst, hsecond]
    refine .ok { hdraft with bindings := rfl, numbered := hnumbered, span := rfl, terms := ?_ }
    cases hcondition with
    | none => exact hdraft.terms
    | some htext =>
      refine List.rel_append hdraft.terms (.cons ⟨?_, htext⟩ .nil)
      rw [isEmpty_eq_of_forall₂ hdraft.terms]

theorem IsNamed.addControl (hdraft : draft.IsNamed table named) (h : scope.IsOpen)
    (htable : table ≠ "") (column : String) :
    SameOutcome (IsNamed table) (draft.addControl scope column keyword)
      (named.addControl (scope.inTable table) column keyword) := by
  unfold Draft.addControl
  split_ifs with hsort
  · have hdirection : '\x7b' ∉ (sortDirection column).toList := by
      rw [sortDirection]
      split_ifs <;> decide +kernel
    rw [← isEmpty_eq_of_forall₂ hdraft.order]
    rcases (orderTerm_inTable h htable draft.order.isEmpty (Text.trim keyword.text)
      hdirection).cases with ⟨fault, hfirst, hsecond⟩ | ⟨term?, term?', hfirst, hsecond, hterm⟩
    · rw [hfirst, hsecond]
      exact .error fault
    · rw [hfirst, hsecond]
      refine .ok { hdraft with order := List.rel_append hdraft.order ?_ }
      cases hterm with
      | none => exact .nil
      | some htext => exact .cons htext .nil
  · exact .ok { hdraft with first := rfl }
  · exact .ok { hdraft with max := rfl }
  · exact .ok hdraft

theorem IsNamed.add (hdraft : draft.IsNamed table named) (h : scope.IsOpen) (htable : table ≠ "")
    (hcolumn : ∀ column ∈ keyword.column, '.' ∉ column.toList) :
    SameOutcome (IsNamed table) (draft.add scope keyword)
      (named.add (scope.inTable table) keyword) := by
  have hterm := hdraft.addTerm h htable hcolumn
  unfold Draft.add
  cases keyword.operator? with
  | some operator => exact .ok { hdraft with span := by rw [hdraft.span] }
  | none =>
    cases hname : keyword.column with
    | none => exact hterm
    | some column =>
      dsimp only
      split_ifs
      · exact hdraft.addControl h htable column
      · exact .ok { hdraft with permissions := by rw [hdraft.permissions] }
      · exact .ok { hdraft with owner := by rw [hdraft.owner] }
      · exact hterm

theorem isNamed_empty (scope : Scope) (table : String) :
    (empty scope).IsNamed table (empty (scope.inTable table)) where
  bindings := rfl
  numbered := ⟨rfl, rfl⟩
  terms := .nil
  span := rfl
  order := .nil
  first := rfl
  max := rfl
  permissions := rfl
  owner := rfl

/-! ### Clauses -/

theorem namesTable_conditionText {terms terms' : List (Join × String)}
    (h : List.Forall₂ (fun term term' => term.1 = term'.1 ∧ NamesTable table term.2 term'.2)
      terms terms') : NamesTable table (conditionText terms) (conditionText terms') := by
  induction h with
  | nil => exact NamesTable.plain table (by decide +kernel)
  | @cons term term' terms terms' hterm hrest ih =>
    have hjoin : '\x7b' ∉ term.1.text.toList := by
      obtain ⟨junction, negated⟩ := term.1
      rcases junction with _ | _ | _ <;> cases negated <;> decide +kernel
    have hcons : ∀ (term : Join × String) (terms : List (Join × String)),
        conditionText (term :: terms) = term.1.text ++ term.2 ++ conditionText terms := by
      simp [conditionText]
    rw [hcons, hcons, ← hterm.1]
    exact (hterm.2.plain_append hjoin).append ih

end Draft

theorem namesTable_orderClause {terms terms' : List String}
    (h : List.Forall₂ (NamesTable table) terms terms') :
    NamesTable table (orderClause terms) (orderClause terms') := by
  have hjoined : NamesTable table ("ORDER BY " ++ String.intercalate ", " terms)
      ("ORDER BY " ++ String.intercalate ", " terms') :=
    (NamesTable.intercalate (by decide +kernel) h).plain_append (by decide +kernel)
  unfold orderClause
  cases h with
  | nil => exact NamesTable.plain table (by decide +kernel)
  | cons hfirst hrest => exact hjoined

/-- The clause with `table` in its slots. -/
def Clause.named (table : String) (clause : Clause) : Clause :=
  { clause with
    condition := clause.condition.map (Text.substitute tableSlot table)
    order := Text.substitute tableSlot table clause.order }

theorem Draft.IsNamed.clause {draft named : Draft} (h : draft.IsNamed table named) :
    named.clause = draft.clause.named table := by
  have hcondition := (Draft.namesTable_conditionText h.terms).eq_substitute
  have horder := (namesTable_orderClause h.order).eq_substitute
  rw [Draft.clause, Draft.clause, Clause.named, ← h.bindings, ← h.first, ← h.max, ← h.permissions,
    ← h.owner, ← isEmpty_eq_of_forall₂ h.terms, horder, hcondition]
  split_ifs <;> rfl

theorem Clause.ofKeywords_inTable (h : scope.IsOpen) (htable : table ≠ "") {keywords : List Keyword}
    (hcolumns : ∀ keyword ∈ keywords, ∀ column ∈ keyword.column, '.' ∉ column.toList) :
    Clause.ofKeywords (scope.inTable table) keywords =
      (Clause.ofKeywords scope keywords).map (Clause.named table) := by
  have hdrafts : SameOutcome (Draft.IsNamed table)
      (keywords.foldlM (Draft.add scope) (Draft.empty scope))
      (keywords.foldlM (Draft.add (scope.inTable table)) (Draft.empty (scope.inTable table))) :=
    SameOutcome.foldlM (fun keyword hkeyword _ _ hdraft =>
      hdraft.add h htable (hcolumns keyword hkeyword)) (Draft.isNamed_empty scope table)
  exact (hdrafts.map fun _ _ hdraft => hdraft.clause).eq_map

theorem Keyword.isColumnName_of_split {clock : Clock} {term : String}
    {defaultSort : Option String} {keywords : List Keyword}
    (h : split clock term defaultSort = .ok keywords) {column : String}
    (hkeyword : keyword ∈ keywords) (hcolumn : keyword.column = some column) :
    isColumnName column.toList = true := by
  rcases part_or_default_of_split h hkeyword with ⟨part, hpart, hread⟩ | ⟨written, hdefault⟩
  · obtain ⟨hname, -⟩ := Part.isWellNamed_of_mem_ofTerm hpart
    rw [Part.column?_of_keyword hpart hread, Part.column?] at hcolumn
    split at hcolumn
    · rename_i name comparison hlead
      obtain rfl := Option.some.inj hcolumn
      rwa [hlead] at hname
    · cases hcolumn
  · rcases mem_defaultKeywords hdefault with ⟨rfl, -⟩ | ⟨rfl, -⟩ | ⟨field, -, rfl⟩ <;>
      · obtain rfl := Option.some.inj hcolumn
        decide +kernel

/-- With the table in its slots the scope gives the clause with the table in its slots. -/
theorem Clause.compile_inTable (h : scope.IsOpen) (htable : table ≠ "") (clock : Clock)
    (term : String) :
    Clause.compile clock (scope.inTable table) term =
      (Clause.compile clock scope term).map (Clause.named table) := by
  have hsettings : (scope.inTable table).settings = scope.settings := rfl
  unfold Clause.compile
  rw [hsettings]
  cases hsplit : split clock term scope.settings.defaultSort with
  | error fault => rfl
  | ok keywords =>
    refine Clause.ofKeywords_inTable h htable fun keyword hkeyword column hcolumn hdot => ?_
    have hname := Keyword.isColumnName_of_split hsplit hkeyword hcolumn
    exact absurd (isNameCharacter_of_isColumnName hname '.' hdot) (by decide)

end Scopes

/-! ### Built-in resource types -/

namespace ResourceType

/-- What a filter on the type is compiled against, in whatever table the resources are. -/
def openScope (type : ResourceType) (settings : Settings) (ignoreCap : Bool) : Scope :=
  { filterColumns := type.filterColumns
    selectColumns := type.selectColumns
    whereColumns := type.whereColumns
    sorts := type.sorts
    table := some tableSlot
    resourceType := type.name
    enums := type.enums
    settings := settings
    ignoreCap := ignoreCap }

variable {type : ResourceType}

theorem ownScope_eq_inTable (type : ResourceType) (options : CompileOptions) :
    type.ownScope options =
      (type.openScope options.settings options.ignoreCap).inTable (type.tableName options.trash) :=
  rfl

theorem isOpen_sortTemplates {template : String} (h : template ∈ sortTemplates) :
    Sql.Template.IsOpen template.toList := by
  have hall : ∀ template ∈ sortTemplates, ∃ cs ∈ Text.asciiChars? template,
      Sql.Template.IsOpen cs := by decide +kernel
  exact Text.of_asciiChars? (hall template h)

theorem isOpen_openScope (h : type ∈ builtin) (settings : Settings) (ignoreCap : Bool) :
    (type.openScope settings ignoreCap).IsOpen where
  table := rfl
  columns := by
    have hcolumns : ∀ type ∈ builtin, ∀ column ∈ type.selectColumns ++ type.whereColumns,
        ∃ cs ∈ Text.asciiChars? column.select,
          Text.opensOnlySlots cs = true ∧ ('\x7b' ∈ cs → '.' ∈ cs) := by decide +kernel
    intro column hcolumn
    obtain ⟨hslots, hqualified⟩ := Text.of_asciiChars? (hcolumns type h column hcolumn)
    exact ⟨hslots, hqualified⟩
  names := by
    have hnames : ∀ type ∈ builtin, ∀ name ∈ type.filterColumns,
        ∃ cs ∈ Text.asciiChars? name, '.' ∉ cs := by decide +kernel
    exact fun name hname => Text.of_asciiChars? (hnames type h name hname)
  sorts _ hsort := isOpen_sortTemplates (mem_sortTemplates h hsort)

theorem tableName_ne_empty (h : type ∈ builtin) (trash : Bool) : type.tableName trash ≠ "" := by
  have hnonempty : ∀ type ∈ builtin, ∀ trash, type.tableName trash ≠ "" := by decide +kernel
  exact hnonempty type h trash

end ResourceType

/-- For a built-in resource type a filter means the same in the trash. There is one clause with
slots, and the filter gives it with the table in the slots: the one of the resources, or the one of
those in the trash. Only the condition and the order have slots. -/
theorem Registry.compile_trash {name : Option String} {type : ResourceType}
    (h : Registry.builtin.find name = .ok type) (clock : Clock) (settings : Settings)
    (ignoreCap : Bool) (term : String) :
    ∃ outcome : Except Fault Clause, ∀ trash,
      Registry.builtin.compile clock name ⟨settings, trash, ignoreCap⟩ term =
        outcome.map (Clause.named (type.tableName trash)) := by
  obtain ⟨hbuiltin, hregistered⟩ := Registry.builtin_of_find h
  have hlower := ResourceType.lower_name_builtin hbuiltin
  refine ⟨Clause.compile clock (type.openScope settings ignoreCap) term, fun trash => ?_⟩
  rw [Registry.compile, h]
  dsimp only
  rw [Registry.compileType, Registry.typeScope_of_registered hlower (hlower ▸ hregistered),
    ResourceType.ownScope_eq_inTable]
  exact Clause.compile_inTable (ResourceType.isOpen_openScope hbuiltin settings ignoreCap)
    (ResourceType.tableName_ne_empty hbuiltin trash) clock term

/-- Tasks in the trash, restricted and ordered by expressions that name their table. -/
theorem Registry.compile_trash_task :
    Registry.builtin.find (some "task") = .ok ResourceType.taskType ∧
      ∃ outcome : Except Fault Clause,
        (∀ trash, Registry.builtin.compile (.whole 0) (some "task") ⟨{}, trash, false⟩
            "threat=High sort=threat" =
          outcome.map (Clause.named (ResourceType.taskType.tableName trash))) ∧
        ((Registry.builtin.compile (.whole 0) (some "task") ⟨{}, true, false⟩
            "threat=High sort=threat").map fun clause =>
              (clause.condition, clause.order)).toOption =
          some (some "(CAST(task_threat_level (tasks_trash.id, 0, 70) AS TEXT) = :fp_0)",
            "ORDER BY order_threat (task_threat_level (tasks_trash.id, 0, 70)) ASC") := by
  have hfind : Registry.builtin.find (some "task") = .ok ResourceType.taskType :=
    eq_ok_of_toOption (by decide +kernel)
  obtain ⟨outcome, houtcome⟩ :=
    Registry.compile_trash hfind (.whole 0) {} false "threat=High sort=threat"
  exact ⟨hfind, outcome, houtcome, by decide +kernel⟩

end ListingFilter
