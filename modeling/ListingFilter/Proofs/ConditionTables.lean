import ListingFilter.Proofs.SideBySide
import ListingFilter.Proofs.TableSlots
/-!
# The table in a condition

The conditions on a column, on another resource, on tags and of free text hold the table in slots
only, whatever is looked for. With the slot for the table, a keyword gives the condition that it
gives for a table, but for the table.
-/

namespace ListingFilter

open Sql (SideBySide)

section Conditions

variable {table expr named operand : String} {keyword : Keyword}

/-! ### Conditions on a column -/

theorem namesTable_match (h : NamesTable table expr named) {operator : String}
    (hoperator : '\x7b' ∉ operator.toList) (hoperand : '\x7b' ∉ operand.toList) :
    NamesTable table ("(CAST(" ++ expr ++ operator ++ operand ++ ")")
      ("(CAST(" ++ named ++ operator ++ operand ++ ")") :=
  (((h.plain_append (by simp)).append_plain hoperator).append_plain hoperand).append_plain (by simp)

theorem namesTable_compare (h : NamesTable table expr named) {type operator : String}
    (htype : '\x7b' ∉ type.toList) (hoperator : '\x7b' ∉ operator.toList)
    (hoperand : '\x7b' ∉ operand.toList) :
    NamesTable table ("(CAST(" ++ expr ++ type ++ operator ++ " " ++ operand ++ ")")
      ("(CAST(" ++ named ++ type ++ operator ++ " " ++ operand ++ ")") :=
  (((((h.plain_append (by simp)).append_plain htype).append_plain hoperator).append_plain
    (by simp)).append_plain hoperand).append_plain (by simp)

theorem namesTable_equal_or_null (h : NamesTable table expr named)
    (hoperand : '\x7b' ∉ operand.toList) :
    NamesTable table
      ("(CAST(" ++ expr ++ " AS TEXT) " ++ "=" ++ " " ++ operand ++ " OR " ++ expr ++ " IS NULL)")
      ("(CAST(" ++ named ++ " AS TEXT) " ++ "=" ++ " " ++ operand ++ " OR " ++ named ++
        " IS NULL)") :=
  (((((((h.plain_append (by simp)).append_plain (by simp)).append_plain (by simp)).append_plain
    (by simp)).append_plain hoperand).append_plain (by simp)).append h).append_plain (by simp)

/-- A value is bound and put into both conditions. -/
theorem sideBySide_literal {value : Json} {condition condition' : String → String}
    (h : ∀ operand : String, '\x7b' ∉ operand.toList →
      NamesTable table (condition operand) (condition' operand)) :
    SideBySide (Option.Rel (NamesTable table))
      (do let operand ← Sql.literal value; return some (condition operand))
      (do let operand ← Sql.literal value; return some (condition' operand)) := by
  refine (SideBySide.literal value).bind ?_
  rintro operand _ ⟨rfl, hbrace⟩
  exact SideBySide.pure (.some (h operand hbrace))

theorem Condition.sideBySide_onColumn (h : NamesTable table expr named) (type : ValueType) :
    SideBySide (Option.Rel (NamesTable table)) (Condition.onColumn expr type keyword)
      (Condition.onColumn named type keyword) := by
  unfold Condition.onColumn
  cases keyword.relation with
  | none | approx => exact SideBySide.pure .none
  | column comparison =>
    cases comparison with
    | approx | regexp =>
      exact sideBySide_literal fun _ hoperand => namesTable_match h (by decide +kernel) hoperand
    | equal =>
      dsimp only [Comparison.operator?]
      split_ifs with hnumeric hempty
      · exact sideBySide_literal fun _ hoperand =>
          namesTable_compare h (by decide +kernel) (by decide +kernel) hoperand
      · exact sideBySide_literal fun _ hoperand => namesTable_equal_or_null h hoperand
      · exact sideBySide_literal fun _ hoperand =>
          namesTable_compare h (by decide +kernel) (by decide +kernel) hoperand
    | above | below =>
      dsimp only [Comparison.operator?]
      split_ifs with hnumeric hempty
      · exact sideBySide_literal fun _ hoperand =>
          namesTable_compare h (by decide +kernel) (by decide +kernel) hoperand
      · simp at hempty
      · exact sideBySide_literal fun _ hoperand =>
          namesTable_compare h (by decide +kernel) (by decide +kernel) hoperand

/-! ### Conditions on the resource -/

theorem Condition.sideBySide_onReference (h : NamesTable table expr named) {type : String}
    (htype : '\x7b' ∉ type.toList) :
    SideBySide (NamesTable table) (Condition.onReference expr type keyword)
      (Condition.onReference named type keyword) := by
  have hreference : NamesTable table s!"{expr}.{type}" s!"{named}.{type}" :=
    (h.append_plain (by decide +kernel)).append_plain htype
  unfold Condition.onReference
  dsimp only
  split_ifs with hempty
  · exact SideBySide.pure ((((hreference.plain_append (by decide +kernel)).append_plain
      (by decide +kernel)).append hreference).append_plain (by decide +kernel))
  · refine (SideBySide.literal _).bind ?_
    rintro uuid _ ⟨rfl, huuid⟩
    have hfront : '\x7b' ∉
        s!"((SELECT id FROM {type}s WHERE {type}s.uuid = {uuid}) = ".toList := by
      simp [toString, htype, huuid]
    exact SideBySide.pure ((hreference.plain_append hfront).append
      ((((hreference.plain_append (by decide +kernel)).append_plain (by decide +kernel)).append
        hreference).append_plain (by decide +kernel)))

theorem Condition.sideBySide_hasTag (h : NamesTable table expr named) (resourceType : String)
    {tag : String} (htag : '\x7b' ∉ tag.toList) :
    SideBySide (NamesTable table) (Condition.hasTag expr resourceType tag)
      (Condition.hasTag named resourceType tag) := by
  unfold Condition.hasTag
  refine (SideBySide.literal _).bind ?_
  rintro type _ ⟨rfl, htype⟩
  have hresource : NamesTable table s!" WHERE tag_resources.resource_uuid = {expr}.uuid"
      s!" WHERE tag_resources.resource_uuid = {named}.uuid" :=
    (h.plain_append (by decide +kernel)).append_plain (by decide +kernel)
  have hclose : '\x7b' ∉ s!" AND tag_resources.resource_type = {type}".toList ∧
      '\x7b' ∉ s!" AND tag_resources.tag = {tag})".toList := by
    simp [toString, htype, htag]
  exact SideBySide.pure (((hresource.plain_append (by decide +kernel)).append_plain
    hclose.1).append_plain hclose.2)

/-- A condition on a column of the tags is the same for all tables. -/
theorem Condition.sideBySide_onTagColumn {column : String} (hcolumn : '\x7b' ∉ column.toList)
    (comparison : Comparison) (text : String) :
    SideBySide (fun condition? condition?' => condition? = condition?' ∧
      ∀ condition ∈ condition?, '\x7b' ∉ condition.toList)
      (Condition.onTagColumn column comparison text)
      (Condition.onTagColumn column comparison text) := by
  unfold Condition.onTagColumn
  cases comparison with
  | equal | approx | regexp =>
    refine (SideBySide.literal _).bind ?_
    rintro value _ ⟨rfl, hvalue⟩
    exact SideBySide.pure ⟨rfl, by simp [toString, hcolumn, hvalue]⟩
  | above | below => exact SideBySide.pure ⟨rfl, by simp⟩

/-- The condition on the tag itself, once those on its name and its value are known. -/
theorem Condition.sideBySide_tag (h : NamesTable table expr named) (resourceType : String)
    {nameCondition valueCondition : String} (hname : '\x7b' ∉ nameCondition.toList)
    (hvalue : '\x7b' ∉ valueCondition.toList) :
    SideBySide (Option.Rel (NamesTable table))
      (do
        let exists_ ← Condition.hasTag expr resourceType "tags.id"
        return some ("(EXISTS (SELECT * FROM tags" ++
          s!" WHERE {nameCondition}{valueCondition}" ++ " AND tags.active != 0" ++
          s!" AND {exists_}))"))
      (do
        let exists_ ← Condition.hasTag named resourceType "tags.id"
        return some ("(EXISTS (SELECT * FROM tags" ++
          s!" WHERE {nameCondition}{valueCondition}" ++ " AND tags.active != 0" ++
          s!" AND {exists_}))")) := by
  refine (Condition.sideBySide_hasTag h resourceType (by decide +kernel)).bind ?_
  intro text other htext
  have hclose : NamesTable table s!" AND {text}))" s!" AND {other}))" :=
    (htext.plain_append (by decide +kernel)).append_plain (by decide +kernel)
  refine SideBySide.pure (.some (hclose.plain_append ?_))
  simp [toString, hname, hvalue]

theorem Condition.sideBySide_onTag (h : NamesTable table expr named) (resourceType : String)
    (comparison : Comparison) (text : String) :
    SideBySide (Option.Rel (NamesTable table))
      (Condition.onTag expr resourceType comparison text)
      (Condition.onTag named resourceType comparison text) := by
  unfold Condition.onTag
  obtain ⟨name, value?⟩ := Text.cutAt '=' text
  refine (Condition.sideBySide_onTagColumn (by decide +kernel) comparison name).bind ?_
  rintro nameCondition? _ ⟨rfl, hname⟩
  cases nameCondition? with
  | none => exact SideBySide.pure .none
  | some nameCondition =>
    have hname := hname nameCondition rfl
    cases value? with
    | none => exact Condition.sideBySide_tag h resourceType hname (by simp)
    | some value =>
      refine (Condition.sideBySide_onTagColumn (by decide +kernel) comparison value).bind ?_
      rintro valueCondition? _ ⟨rfl, hvalue⟩
      refine Condition.sideBySide_tag h resourceType hname ?_
      cases valueCondition? with
      | none => simp
      | some valueCondition => simpa using hvalue valueCondition rfl

theorem Condition.sideBySide_onTagId (h : NamesTable table expr named) (resourceType : String)
    (comparison : Comparison) (text : String) :
    SideBySide (Option.Rel (NamesTable table))
      (Condition.onTagId expr resourceType comparison text)
      (Condition.onTagId named resourceType comparison text) := by
  unfold Condition.onTagId
  split_ifs
  · refine (SideBySide.literal _).bind ?_
    rintro uuid _ ⟨rfl, huuid⟩
    have htag : '\x7b' ∉ s!"(SELECT id FROM tags WHERE tags.uuid = {uuid})".toList := by
      simp [toString, huuid]
    refine (Condition.sideBySide_hasTag h resourceType htag).bind ?_
    intro text text' htext
    exact SideBySide.pure (.some
      ((htext.plain_append (by decide +kernel)).append_plain (by decide +kernel)))
  · exact SideBySide.pure .none

theorem Condition.sideBySide_onTagTerm (h : NamesTable table expr named)
    (resourceType column : String) :
    SideBySide (Option.Rel (NamesTable table))
      (Condition.onTagTerm expr resourceType column keyword)
      (Condition.onTagTerm named resourceType column keyword) := by
  unfold Condition.onTagTerm
  cases keyword.relation with
  | none | approx => exact SideBySide.pure .none
  | column comparison =>
    dsimp only
    split_ifs
    · exact Condition.sideBySide_onTagId h _ _ _
    · exact Condition.sideBySide_onTag h _ _ _

/-! ### Free text -/

/-- The probes compare the same, each in its own table. -/
structure Probe.IsNamed (table : String) (probe named : Probe) : Prop where
  expr : NamesTable table probe.expr named.expr
  numeric : probe.numeric = named.numeric
  operator : probe.operator = named.operator
  operand : probe.operand = named.operand
  plain : '\x7b' ∉ probe.operand.toList

theorem namesTable_cast (h : NamesTable table expr named) {type operator : String}
    (htype : '\x7b' ∉ type.toList) (hoperator : '\x7b' ∉ operator.toList)
    (hoperand : '\x7b' ∉ operand.toList) :
    NamesTable table ("CAST(" ++ expr ++ " AS " ++ type ++ ") " ++ operator ++ " " ++ operand)
      ("CAST(" ++ named ++ " AS " ++ type ++ ") " ++ operator ++ " " ++ operand) :=
  ((((((h.plain_append (by simp)).append_plain (by simp)).append_plain htype).append_plain
    (by simp)).append_plain hoperator).append_plain (by simp)).append_plain hoperand

theorem Probe.IsNamed.text {probe named : Probe} (h : probe.IsNamed table named)
    (negated : Bool) : NamesTable table (probe.text negated) (named.text negated) := by
  obtain ⟨expr, numeric, operator, operand⟩ := probe
  obtain ⟨_, _, _, _⟩ := named
  obtain ⟨hexpr, rfl, rfl, rfl, hplain⟩ := h
  have htype : '\x7b' ∉ (if numeric then "NUMERIC" else "TEXT").toList := by
    cases numeric <;> decide +kernel
  have hoperator : '\x7b' ∉ (operator.text negated).toList := by
    cases operator <;> cases negated <;> decide +kernel
  have hcast := namesTable_cast hexpr htype hoperator hplain
  cases negated with
  | false => exact hcast
  | true => exact (((hexpr.plain_append (by decide +kernel)).append_plain
      (by decide +kernel)).append hcast).append_plain (by decide +kernel)

theorem sideBySide_freeTextOperand (regexp : Bool) :
    SideBySide (fun text text' => text = text' ∧ '\x7b' ∉ text.toList)
      (freeTextOperand keyword regexp) (freeTextOperand keyword regexp) := by
  unfold freeTextOperand
  cases freeTextOperator keyword regexp <;> exact SideBySide.literal _

theorem sideBySide_bindProbes (regexp : Bool) {columns : List Column}
    (hcolumns : ∀ column ∈ columns, column.IsOpen) {shared : Option String}
    (hshared : ∀ operand ∈ shared, '\x7b' ∉ operand.toList) :
    SideBySide (List.Forall₂ (Probe.IsNamed table))
      (bindProbes keyword regexp shared columns)
      (bindProbes keyword regexp shared (columns.map (ResourceType.bindColumn table))) := by
  induction columns generalizing shared with
  | nil => exact SideBySide.pure .nil
  | cons column rest ih =>
    obtain ⟨hcolumn, hrest⟩ := List.forall_mem_cons.1 hcolumns
    have hexpr := ResourceType.namesTable_bindColumn hcolumn table
    have htype : (ResourceType.bindColumn table column).type = column.type := rfl
    -- Whether the operand was bound before this column or is bound here, later ones share it.
    have htext : ∀ {operand : String}, '\x7b' ∉ operand.toList →
        SideBySide (List.Forall₂ (Probe.IsNamed table))
          (do
            let probes ← bindProbes keyword regexp (some operand) rest
            return ⟨column.select, false, freeTextOperator keyword regexp, operand⟩ :: probes)
          (do
            let probes ← bindProbes keyword regexp (some operand)
              (rest.map (ResourceType.bindColumn table))
            return ⟨(ResourceType.bindColumn table column).select, false,
              freeTextOperator keyword regexp, operand⟩ :: probes) := by
      intro operand hoperand
      refine (ih hrest (by simpa using hoperand)).bind fun probes probes' hprobes => ?_
      exact SideBySide.pure (.cons ⟨hexpr, rfl, rfl, rfl, hoperand⟩ hprobes)
    rw [List.map_cons]
    unfold bindProbes
    rw [htype]
    split_ifs with hnumeric
    · refine (SideBySide.literal _).bind ?_
      rintro number _ ⟨rfl, hnumber⟩
      refine (ih hrest hshared).bind fun probes probes' hprobes => ?_
      exact SideBySide.pure (.cons ⟨hexpr, rfl, rfl, rfl, hnumber⟩ hprobes)
    · cases shared with
      | some operand =>
        dsimp only
        rw [pure_bind, pure_bind]
        exact htext (hshared operand rfl)
      | none =>
        refine (sideBySide_freeTextOperand regexp).bind ?_
        rintro operand _ ⟨rfl, hoperand⟩
        exact htext hoperand

/-- Free text is looked for in the same columns of all tables. -/
theorem freeTextTarget?_bindColumn {selected filtered : List Column}
    (hcolumns : ∀ column ∈ selected ++ filtered, column.IsOpen)
    (enums : List (String × List String)) {name : String} (hname : '.' ∉ name.toList) :
    freeTextTarget? (selected.map (ResourceType.bindColumn table))
        (filtered.map (ResourceType.bindColumn table)) enums keyword name =
      (freeTextTarget? selected filtered enums keyword name).map
        (ResourceType.bindColumn table) := by
  unfold freeTextTarget?
  split_ifs
  · rfl
  · exact ResourceType.resolve?_bindColumn hcolumns hname table
  · rfl

theorem sideBySide_freeTextProbes {selected filtered : List Column}
    (hcolumns : ∀ column ∈ selected ++ filtered, column.IsOpen)
    (enums : List (String × List String)) (regexp : Bool) {names : List String}
    (hnames : ∀ name ∈ names, '.' ∉ name.toList) :
    SideBySide (List.Forall₂ (Probe.IsNamed table))
      (freeTextProbes selected filtered enums keyword regexp names)
      (freeTextProbes (selected.map (ResourceType.bindColumn table))
        (filtered.map (ResourceType.bindColumn table)) enums keyword regexp names) := by
  have htargets : names.filterMap (freeTextTarget? (selected.map (ResourceType.bindColumn table))
      (filtered.map (ResourceType.bindColumn table)) enums keyword) =
      (names.filterMap (freeTextTarget? selected filtered enums keyword)).map
        (ResourceType.bindColumn table) := by
    rw [List.map_filterMap]
    exact List.filterMap_congr fun name hname =>
      freeTextTarget?_bindColumn hcolumns enums (hnames name hname)
  have hopen : ∀ column ∈ names.filterMap (freeTextTarget? selected filtered enums keyword),
      column.IsOpen := by
    intro column hmem
    obtain ⟨name, -, htarget⟩ := List.mem_filterMap.1 hmem
    rw [freeTextTarget?] at htarget
    split_ifs at htarget
    exact hcolumns column (mem_of_resolve? htarget)
  unfold freeTextProbes
  rw [htargets]
  exact sideBySide_bindProbes regexp hopen (by simp)

theorem namesTable_freeTextCondition (negated : Bool) {probes named : List Probe}
    (h : List.Forall₂ (Probe.IsNamed table) probes named) :
    Option.Rel (NamesTable table) (freeTextCondition negated probes)
      (freeTextCondition negated named) := by
  have htexts : List.Forall₂ (NamesTable table) (probes.map (Probe.text negated))
      (named.map (Probe.text negated)) :=
    List.forall₂_map_left_iff.2 (List.forall₂_map_right_iff.2
      (h.imp fun _ _ hprobe => hprobe.text negated))
  have hseparator : '\x7b' ∉ (if negated then " AND " else " OR ").toList := by
    cases negated <;> decide +kernel
  unfold freeTextCondition
  cases h with
  | nil => exact .none
  | cons hfirst hrest => exact .some (((NamesTable.intercalate hseparator htexts).plain_append
      (by decide +kernel)).append_plain (by decide +kernel))

end Conditions

end ListingFilter
