import ListingFilter.Clause.Condition
import ListingFilter.Proofs.ConditionTokens
/-!
# The conditions of terms as rows of tokens

Each kind of condition on a column is a row that leads from the outside of all parentheses back to
it. It refers to exactly the parameters that are bound for it, and without a condition none is
bound.
-/

namespace ListingFilter

open Sql (Binds Operand)

section Conditions

variable {Atom : String → Prop} {keyword : Keyword}

theorem isCondition_match {expr operator : String} {operand : Operand} (hexpr : Atom expr)
    (hoperator : operator ∈ [" AS TEXT) ILIKE ", " AS TEXT) ~ "]) (hplain : operand.IsPlain) :
    Sql.IsCondition Atom operand.numbers ("(CAST(" ++ expr ++ operator ++ operand.text ++ ")") := by
  refine Sql.isCondition_of_tokens "(CAST("
    [.declared expr, .fixed operator, .value operand, .fixed ")"] ?_ ?_ ?_ ?_
  · simp only [Sql.writtenTokens, Sql.Token.written, String.append_assoc, String.append_empty]
  · simp
  · simp [hexpr, hplain]
  · simp only [List.map_cons, List.map_nil, Sql.Token.erase]
    revert operator
    decide +kernel

theorem isCondition_compare {expr type operator : String} {operand : Operand} (hexpr : Atom expr)
    (htype : type ∈ [" AS TEXT) ", " AS NUMERIC) "]) (hoperator : operator ∈ ["=", ">", "<"])
    (hplain : operand.IsPlain) :
    Sql.IsCondition Atom operand.numbers
      ("(CAST(" ++ expr ++ type ++ operator ++ " " ++ operand.text ++ ")") := by
  refine Sql.isCondition_of_tokens "(CAST("
    [.declared expr, .fixed type, .fixed operator, .fixed " ", .value operand, .fixed ")"]
    ?_ ?_ ?_ ?_
  · simp only [Sql.writtenTokens, Sql.Token.written, String.append_assoc, String.append_empty]
  · simp
  · simp [hexpr, hplain]
  · simp only [List.map_cons, List.map_nil, Sql.Token.erase]
    revert type
    revert operator
    decide +kernel

theorem isCondition_equal_or_null {expr : String} {operand : Operand} (hexpr : Atom expr)
    (hplain : operand.IsPlain) :
    Sql.IsCondition Atom operand.numbers
      ("(CAST(" ++ expr ++ " AS TEXT) " ++ "=" ++ " " ++ operand.text ++ " OR " ++ expr ++
        " IS NULL)") := by
  refine Sql.isCondition_of_tokens "(CAST("
    [.declared expr, .fixed " AS TEXT) ", .fixed "=", .fixed " ", .value operand, .fixed " OR ",
      .declared expr, .fixed " IS NULL)"] ?_ ?_ ?_ ?_
  · simp only [Sql.writtenTokens, Sql.Token.written, String.append_assoc, String.append_empty]
  · simp
  · simp [hexpr, hplain]
  · simp only [List.map_cons, List.map_nil, Sql.Token.erase]
    decide +kernel

/-- A value is bound and put into a condition. -/
theorem binds_literal_condition {value : Json} {condition : String → String}
    (h : ∀ operand : Operand, operand.IsPlain →
      Sql.IsCondition Atom operand.numbers (condition operand.text)) :
    Binds (do let text ← Sql.literal value; return some (condition text))
      (IsConditionIfAny Atom) := by
  refine (Sql.binds_literal value).bind ?_
  rintro _ _ ⟨operand, hplain, rfl, rfl⟩
  refine Binds.pure ?_
  rw [Set.union_empty]
  exact h operand hplain

theorem binds_onColumn {expr : String} (hexpr : Atom expr) (type : ValueType) :
    Binds (Condition.onColumn expr type keyword) (IsConditionIfAny Atom) := by
  unfold Condition.onColumn
  cases hrelation : keyword.relation with
  | none => exact Binds.pure rfl
  | approx => exact Binds.pure rfl
  | column comparison =>
    cases comparison with
    | approx =>
      exact binds_literal_condition fun operand hplain =>
        isCondition_match hexpr (by decide) hplain
    | regexp =>
      exact binds_literal_condition fun operand hplain =>
        isCondition_match hexpr (by decide) hplain
    | equal =>
      dsimp only [Comparison.operator?]
      split_ifs with hnumeric hempty
      · exact binds_literal_condition fun operand hplain =>
          isCondition_compare hexpr (by decide) (by decide) hplain
      · exact binds_literal_condition fun operand hplain =>
          isCondition_equal_or_null hexpr hplain
      · exact binds_literal_condition fun operand hplain =>
          isCondition_compare hexpr (by decide) (by decide) hplain
    | above | below =>
      dsimp only [Comparison.operator?]
      split_ifs with hnumeric hempty
      · exact binds_literal_condition fun operand hplain =>
          isCondition_compare hexpr (by decide) (by decide) hplain
      · simp at hempty
      · exact binds_literal_condition fun operand hplain =>
          isCondition_compare hexpr (by decide) (by decide) hplain

theorem binds_onReference {table type : String} (htable : Atom table) (htype : Atom type) :
    Binds (Condition.onReference table type keyword) (Sql.IsCondition Atom) := by
  unfold Condition.onReference
  split_ifs with hempty
  · refine Binds.pure ?_
    refine Sql.isCondition_of_tokens "("
      [.declared table, .fixed ".", .declared type, .fixed " IS NULL OR ", .declared table,
        .fixed ".", .declared type, .fixed " = 0)"] ?_ ?_ ?_ ?_
    · simp only [Sql.writtenTokens, Sql.Token.written, String.append_assoc, String.append_empty,
        toString]
    · simp
    · simp [htable, htype]
    · simp only [List.map_cons, List.map_nil, Sql.Token.erase]
      decide +kernel
  · refine (Sql.binds_literal _).bind ?_
    rintro _ _ ⟨operand, hplain, rfl, rfl⟩
    refine Binds.pure ?_
    refine Sql.isCondition_of_tokens "((SELECT id FROM "
      [.declared type, .fixed "s WHERE ", .declared type, .fixed "s.uuid = ", .value operand,
        .fixed ") = ", .declared table, .fixed ".", .declared type, .fixed " OR ", .declared table,
        .fixed ".", .declared type, .fixed " IS NULL OR ", .declared table, .fixed ".",
        .declared type, .fixed " = 0)"] ?_ ?_ ?_ ?_
    · simp only [Sql.writtenTokens, Sql.Token.written, String.append_assoc, String.append_empty,
        toString]
    · simp
    · simp [htable, htype, hplain]
    · simp only [List.map_cons, List.map_nil, Sql.Token.erase]
      decide +kernel

/-! ### Tags -/

/-- The tokens of the condition that the resource has a tag. -/
def tagTokens (table : String) (type : Operand) (tag : List Sql.Token) : List Sql.Token :=
  [.fixed "EXISTS (SELECT * FROM tag_resources",
    .fixed " WHERE tag_resources.resource_uuid = ", .declared table, .fixed ".uuid",
    .fixed " AND tag_resources.resource_type = ", .value type,
    .fixed " AND tag_resources.tag = "] ++ tag ++ [.fixed ")"]

theorem binds_hasTag (table resourceType : String) {tag : String} {tokens : List Sql.Token}
    (htag : tag = Sql.writtenTokens tokens) :
    Binds (Condition.hasTag table resourceType tag) fun numbers text =>
      ∃ type : Operand, type.IsPlain ∧ numbers = type.numbers ∧
        text = Sql.writtenTokens (tagTokens table type tokens) := by
  subst htag
  unfold Condition.hasTag
  refine (Sql.binds_literal _).bind ?_
  rintro _ _ ⟨type, hplain, rfl, rfl⟩
  refine Binds.pure ⟨type, hplain, Set.union_empty _, ?_⟩
  simp only [tagTokens, Sql.writtenTokens_append, List.cons_append, List.nil_append,
    Sql.writtenTokens, Sql.Token.written, String.append_assoc, String.append_empty, toString]

def tagOperators : List String := [" = ", " ILIKE ", " ~ "]

theorem binds_onTagColumn (column : String) (comparison : Comparison) (text : String) :
    Binds (Condition.onTagColumn column comparison text) fun numbers condition? =>
      (condition? = none ∧ numbers = ∅) ∨
      ∃ operator ∈ tagOperators, ∃ operand : Operand, operand.IsPlain ∧
        condition? = some (Sql.writtenTokens [.fixed column, .fixed operator, .value operand]) ∧
        numbers = operand.numbers := by
  have hbound : ∀ {value : Json}, ∀ operator ∈ tagOperators,
      Binds (do
        let value ← Sql.literal value
        return some (column ++ operator ++ value)) fun numbers condition? =>
        (condition? = none ∧ numbers = ∅) ∨
        ∃ operator ∈ tagOperators, ∃ operand : Operand, operand.IsPlain ∧
          condition? = some (Sql.writtenTokens [.fixed column, .fixed operator, .value operand]) ∧
          numbers = operand.numbers := by
    intro value operator hoperator
    refine (Sql.binds_literal _).bind ?_
    rintro _ _ ⟨operand, hplain, rfl, rfl⟩
    refine Binds.pure (.inr ⟨operator, hoperator, operand, hplain, ?_, Set.union_empty _⟩)
    simp only [Sql.writtenTokens, Sql.Token.written, String.append_assoc, String.append_empty]
  unfold Condition.onTagColumn
  cases comparison with
  | equal => exact hbound " = " (by decide)
  | approx => exact hbound " ILIKE " (by decide)
  | regexp => exact hbound " ~ " (by decide)
  | above | below => exact Binds.pure (.inl ⟨rfl, rfl⟩)

/-- What may stand for the value of a tag. -/
def valueShapes : List (List Sql.Token) :=
  [] :: [.fixed " AND "] :: tagOperators.map fun operator =>
    [.fixed " AND ", .fixed "tags.value", .fixed operator, .value (.param 0)]

theorem isCondition_tag {table operator : String} {name type : Operand} {value : List Sql.Token}
    {nameText valueText tagText : String} (htable : Atom table)
    (hoperator : operator ∈ tagOperators)
    (hnameText : nameText =
      Sql.writtenTokens [.fixed "tags.name", .fixed operator, .value name])
    (hvalueText : valueText = Sql.writtenTokens value)
    (htagText : tagText = Sql.writtenTokens (tagTokens table type [.fixed "tags.id"]))
    (hshape : value.map Sql.Token.erase ∈ valueShapes) (hname : name.IsPlain)
    (hvalue : ∀ token ∈ value, token.IsSound Atom) (htype : type.IsPlain) :
    Sql.IsCondition Atom (name.numbers ∪ (Sql.tokenNumbers value ∪ type.numbers))
      ("(EXISTS (SELECT * FROM tags" ++ s!" WHERE {nameText}{valueText}" ++
        " AND tags.active != 0" ++ s!" AND {tagText}))") := by
  subst hnameText hvalueText htagText
  refine Sql.isCondition_of_tokens "(EXISTS (SELECT * FROM tags"
    ([.fixed " WHERE ", .fixed "tags.name", .fixed operator, .value name] ++ value ++
      [.fixed " AND tags.active != 0", .fixed " AND "] ++
      tagTokens table type [.fixed "tags.id"] ++ [.fixed "))"]) ?_ ?_ ?_ ?_
  · simp only [Sql.writtenTokens_append, List.cons_append, List.nil_append, Sql.writtenTokens,
      Sql.Token.written, String.append_assoc, String.append_empty, toString]
  · simp [tagTokens, Sql.tokenNumbers_append]
  · simp only [tagTokens, List.forall_mem_append]
    refine ⟨⟨⟨⟨?_, hvalue⟩, ?_⟩, ?_⟩, ?_⟩ <;> simp [htable, hname, htype]
  · simp only [tagTokens, List.map_append, List.map_cons, List.map_nil, Sql.Token.erase]
    generalize value.map Sql.Token.erase = shape at hshape
    revert shape
    revert operator
    decide +kernel

/-- The condition on a tag, once those on its name and its value are known. -/
theorem binds_tag {table operator : String} {name : Operand} {value : List Sql.Token}
    {nameText valueText : String} (htable : Atom table) (resourceType : String)
    (hoperator : operator ∈ tagOperators)
    (hnameText : nameText =
      Sql.writtenTokens [.fixed "tags.name", .fixed operator, .value name])
    (hvalueText : valueText = Sql.writtenTokens value)
    (hshape : value.map Sql.Token.erase ∈ valueShapes) (hname : name.IsPlain)
    (hvalue : ∀ token ∈ value, token.IsSound Atom) :
    Binds (do
        let exists_ ← Condition.hasTag table resourceType "tags.id"
        return some ("(EXISTS (SELECT * FROM tags" ++ s!" WHERE {nameText}{valueText}" ++
          " AND tags.active != 0" ++ s!" AND {exists_}))"))
      fun others condition? =>
        IsConditionIfAny Atom (name.numbers ∪ (Sql.tokenNumbers value ∪ others)) condition? := by
  have htag : "tags.id" = Sql.writtenTokens [.fixed "tags.id"] := by simp
  refine (binds_hasTag table resourceType htag).bind ?_
  rintro _ _ ⟨type, htype, rfl, rfl⟩
  refine Binds.pure ?_
  rw [Set.union_empty]
  exact isCondition_tag htable hoperator hnameText hvalueText rfl hshape hname hvalue htype

theorem binds_onTag {table : String} (htable : Atom table) (resourceType : String)
    (comparison : Comparison) (text : String) :
    Binds (Condition.onTag table resourceType comparison text) (IsConditionIfAny Atom) := by
  unfold Condition.onTag
  generalize Text.cutAt '=' text = cut
  obtain ⟨name, value?⟩ := cut
  refine (binds_onTagColumn _ _ _).bind ?_
  rintro _ _ (⟨rfl, rfl⟩ | ⟨operator, hoperator, nameOperand, hname, rfl, rfl⟩)
  · exact Binds.pure (Set.union_empty _)
  cases value? with
  | none =>
    have htag := @binds_tag Atom table operator nameOperand [] _ "" htable resourceType hoperator
      rfl rfl (by decide) hname (by simp)
    simpa using htag
  | some value =>
    refine (binds_onTagColumn _ _ _).bind ?_
    rintro _ _ (⟨rfl, rfl⟩ | ⟨operator', hoperator', operand, hplain, rfl, rfl⟩)
    · have htag := @binds_tag Atom table operator nameOperand [.fixed " AND "] _ _ htable
        resourceType hoperator rfl rfl (by decide) hname (by simp)
      simpa using htag
    · have hshape : [Sql.Token.fixed " AND ", .fixed "tags.value", .fixed operator',
          .value operand].map Sql.Token.erase ∈ valueShapes :=
        List.mem_cons_of_mem _ (List.mem_cons_of_mem _ (List.mem_map_of_mem hoperator'))
      have htag := binds_tag htable resourceType hoperator rfl rfl hshape hname (by simp [hplain])
      simpa using htag

theorem binds_onTagId {table : String} (htable : Atom table) (resourceType : String)
    (comparison : Comparison) (text : String) :
    Binds (Condition.onTagId table resourceType comparison text) (IsConditionIfAny Atom) := by
  unfold Condition.onTagId
  split_ifs
  · refine (Sql.binds_literal _).bind ?_
    rintro _ _ ⟨uuid, huuid, rfl, rfl⟩
    have htag : s!"(SELECT id FROM tags WHERE tags.uuid = {uuid.text})" =
        Sql.writtenTokens
          [.fixed "(SELECT id FROM tags WHERE tags.uuid = ", .value uuid, .fixed ")"] := by
      simp [String.append_assoc, toString]
    refine (binds_hasTag table resourceType htag).bind ?_
    rintro _ _ ⟨type, htype, rfl, rfl⟩
    refine Binds.pure ?_
    refine Sql.isCondition_of_tokens "("
      (tagTokens table type
        [.fixed "(SELECT id FROM tags WHERE tags.uuid = ", .value uuid, .fixed ")"] ++
        [.fixed ")"]) ?_ ?_ ?_ ?_
    · simp only [Sql.writtenTokens_append, Sql.writtenTokens, Sql.Token.written,
        String.append_assoc, String.append_empty, toString]
    · simp [tagTokens, Set.union_comm]
    · simp [tagTokens, htable, huuid, htype]
    · simp only [tagTokens, List.cons_append, List.nil_append, List.map_cons, List.map_nil,
        Sql.Token.erase]
      decide +kernel
  · exact Binds.pure rfl

theorem binds_onTagTerm {table : String} (htable : Atom table) (resourceType column : String) :
    Binds (Condition.onTagTerm table resourceType column keyword) (IsConditionIfAny Atom) := by
  unfold Condition.onTagTerm
  cases hrelation : keyword.relation with
  | none => exact Binds.pure rfl
  | approx => exact Binds.pure rfl
  | column comparison =>
    dsimp only
    split_ifs with hid
    · exact binds_onTagId htable _ _ _
    · exact binds_onTag htable _ _ _

end Conditions

end ListingFilter
