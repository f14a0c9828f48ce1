import ListingFilter.Proofs.WrittenClauses
import ListingFilter.Query
/-!
# A filter cannot leave its conjunct

The condition of a statement is made of the filter, the restriction to an owner and the access
condition, each in parentheses. What is declared for a resource type is balanced, and so is every
row of tokens over it, whatever the filter says. So the parentheses around a conjunct are closed
where it ends, and outside of all parentheses there is nothing but what joins the conjuncts.
-/

namespace ListingFilter

open Sql (IsBalanced depthAfter)

/-! ### Rows of tokens are balanced -/

namespace Sql

theorem Operand.depthAfter_text {operand : Operand} (h : operand.IsPlain) (depth : Nat) :
    depthAfter depth operand.text.toList = some depth := by
  refine depthAfter_of_plain (fun c hc => ?_) depth
  cases operand with
  | number text => exact ⟨(h c hc).1, (h c hc).2.1⟩
  | param n =>
    have hplain := isPlain_paramName n
    rw [Operand.text, String.toList_append, List.mem_append] at hc
    rcases hc with hc | hc
    · obtain rfl : c = ':' := by simpa using hc
      decide
    · exact ⟨(hplain c hc).1, (hplain c hc).2.1⟩

theorem Position.depthAfter_written {position next : Position} {token : Token}
    (h : position.after token = some next) (hsound : token.IsSound IsBalanced) :
    depthAfter position.depth token.written.toList = some next.depth := by
  cases token with
  | fixed text => exact (Position.after_fixed h).2.1
  | declared expr =>
    obtain ⟨-, rfl⟩ := Position.after_declared h
    exact depthAfter_of_isBalanced hsound position.depth
  | value operand =>
    obtain ⟨-, rfl⟩ := Position.after_value h
    exact operand.depthAfter_text hsound position.depth

theorem IsWritten.depthAfter {start stop : Position} {numbers : Set ℕ} {text : String}
    (h : IsWritten IsBalanced start stop numbers text) :
    depthAfter start.depth text.toList = some stop.depth := by
  obtain ⟨tokens, rfl, hscan, hsound, -⟩ := h
  induction tokens generalizing start with
  | nil =>
    obtain rfl : start = stop := Option.some.inj hscan
    rfl
  | cons token tokens ih =>
    obtain ⟨htoken, htokens⟩ := List.forall_mem_cons.1 hsound
    obtain ⟨middle, hstep, hrest⟩ := Option.bind_eq_some_iff.1 hscan
    rw [writtenTokens, String.toList_append, depthAfter_append,
      Position.depthAfter_written hstep htoken]
    exact ih hrest htokens

end Sql

/-! ### What is declared for a resource type -/

/-- The declared expressions are balanced, and the names of the tables hold no parentheses. -/
structure ResourceType.IsBalanced (type : ResourceType) : Prop where
  columns : ∀ column ∈ type.selectColumns ++ type.whereColumns, Sql.IsBalanced column.select
  tables : ∀ trash, ∀ c ∈ (type.tableName trash).toList, c ≠ '(' ∧ c ≠ ')'

theorem ResourceType.isBalanced_builtin {type : ResourceType} (h : type ∈ builtin) :
    type.IsBalanced where
  columns := by
    have hcolumns : ∀ type ∈ builtin, ∀ column ∈ type.selectColumns ++ type.whereColumns,
        ∃ cs ∈ Text.asciiChars? column.select, depthAfter 0 cs = some 0 := by decide +kernel
    intro column hcolumn
    exact Text.of_asciiChars? (hcolumns type h column hcolumn)
  tables := by
    have htables : ∀ type ∈ builtin, ∀ trash, ∃ cs ∈ Text.asciiChars? (type.tableName trash),
        (cs.all fun c => c != '(' && c != ')') = true := by decide +kernel
    intro trash c hc
    have hplain := Text.of_asciiChars? (htables type h trash)
    simpa using List.all_eq_true.1 hplain c hc

theorem ResourceType.isBalanced_bindColumn {table : String} {column : Column}
    (htable : ∀ c ∈ table.toList, c ≠ '(' ∧ c ≠ ')') (hcolumn : Sql.IsBalanced column.select) :
    Sql.IsBalanced (bindColumn table column).select := by
  have hslot : ∀ c ∈ tableSlot.toList, c ≠ '(' ∧ c ≠ ')' := by simp [tableSlot]
  have hne : tableSlot.toList ≠ [] := by decide +kernel
  rw [Sql.IsBalanced, bindColumn, Text.substitute, String.toList_ofList,
    Text.depthAfter_substituteChars hne hslot htable]
  exact hcolumn

theorem ResourceType.IsBalanced.isSound_typeScope {type : ResourceType} (h : type.IsBalanced)
    (registry : Registry) (options : CompileOptions) :
    (registry.typeScope type options).IsSound Sql.IsBalanced := by
  have htable := h.tables options.trash
  refine ResourceType.isSound_typeScope registry options ?_ (Sql.depthAfter_of_plain htable 0) ?_
  · intro column hcolumn
    exact isBalanced_bindColumn htable (h.columns column hcolumn)
  · intro name hplain
    exact Sql.depthAfter_of_plain (fun c hc => ⟨(hplain c hc).1, (hplain c hc).2.1⟩) 0

/-! ### Owners -/

/-- An item for the owner that a filter names, if it is neither empty nor, in lower case, `any`. -/
def forOwner {α : Type} (owner? : Option String) (item : String → α) : List α :=
  match owner? with
  | none => []
  | some owner => if owner = "" ∨ Text.lower owner = "any" then [] else [item owner]

theorem forOwner_eq {α : Type} (clause : Clause) (item : String → α) :
    forOwner clause.owner item = (clause.restrictingOwner?.map item).toList := by
  cases howner : clause.owner with
  | none => simp [forOwner, Clause.restrictingOwner?, howner]
  | some owner =>
    have hrestricts : (owner != "" && Text.lower owner != "any") = true ↔
        ¬(owner = "" ∨ Text.lower owner = "any") := by simp
    rw [Clause.restrictingOwner?, howner, forOwner, Option.filter_some]
    by_cases hany : owner = "" ∨ Text.lower owner = "any"
    · rw [if_pos hany, if_neg fun h => hrestricts.1 h hany]
      rfl
    · rw [if_neg hany, if_pos (hrestricts.2 hany)]
      rfl

/-! ### Conjuncts -/

/-- The conjuncts of the condition: the filter, if it has a condition, the restriction to the owner
that it names, unless that is empty or `any`, and the access condition, unless that is empty. -/
def conjuncts (table : String) (clause : Clause) (access : Access) : List String :=
  clause.condition.toList ++
  forOwner clause.owner (fun _ =>
    table ++ ".owner IN (SELECT id FROM users WHERE name = :owner_name)") ++
  (if access.condition = "" then [] else [access.condition])

/-- The conjuncts in parentheses, joined by AND; nothing if there are none. -/
def conjunction (bodies : List String) : String :=
  if bodies.isEmpty then ""
  else " WHERE " ++ String.intercalate " AND " (bodies.map fun body => "(" ++ body ++ ")")

theorem whereText_eq_conjunction (table : String) (clause : Clause) (access : Access) :
    whereText table clause access = conjunction (conjuncts table clause access) := by
  have hparts : whereParts table clause access =
      (conjuncts table clause access).map fun body => "(" ++ body ++ ")" := by
    unfold whereParts conjuncts
    rw [forOwner_eq]
    cases clause.condition <;> cases clause.restrictingOwner? <;> split_ifs <;>
      simp [toString, String.append_assoc]
  simp only [whereText, conjunction, hparts, List.isEmpty_map]

/-- Outside of all parentheses there is only what joins the conjuncts. -/
theorem outerText_conjunction {body : String} {bodies : List String}
    (h : ∀ text ∈ body :: bodies, IsBalanced text) :
    Sql.outerText (conjunction (body :: bodies)) =
      " WHERE " ++ String.join (List.replicate bodies.length " AND ") := by
  have hwhere : ∀ c ∈ " WHERE ".toList, c ≠ '(' ∧ c ≠ ')' := by simp
  have hand : ∀ c ∈ " AND ".toList, c ≠ '(' ∧ c ≠ ')' := by simp
  apply String.toList_injective
  rw [Sql.outerText, String.toList_ofList, conjunction, List.isEmpty_cons, if_neg (by decide),
    String.toList_append, Sql.outerChars_plain hwhere, Sql.outerChars_intercalate hand h,
    String.toList_append]
  simp [String.toList_join, List.flatMap_def]

theorem conjuncts_isBalanced {table : String} {clause : Clause} {access : Access}
    (htable : ∀ c ∈ table.toList, c ≠ '(' ∧ c ≠ ')')
    (hclause : ∀ condition ∈ clause.condition, IsBalanced condition)
    (haccess : IsBalanced access.condition) :
    ∀ body ∈ conjuncts table clause access, IsBalanced body := by
  intro body hmem
  rcases List.mem_append.1 hmem with hmem | hmem
  · rcases List.mem_append.1 hmem with hmem | hmem
    · exact hclause body (Option.mem_toList.1 hmem)
    · rw [forOwner_eq] at hmem
      obtain ⟨owner, -, rfl⟩ := Option.map_eq_some_iff.1 (Option.mem_toList.1 hmem)
      rw [IsBalanced, String.toList_append, Sql.depthAfter_append, Sql.depthAfter_of_plain htable]
      decide +kernel
  · split_ifs at hmem
    · cases hmem
    · rwa [List.mem_singleton.1 hmem]

/-- In the statement `front` and `tail` stand around the conjuncts, which are balanced, in
parentheses, and joined by nothing but AND. -/
structure Query.IsIsolated (table : String) (access : Access) (front tail : String)
    (query : Query) : Prop where
  condition : ∀ condition ∈ query.clause.condition, IsBalanced condition
  sql : query.statement.sql =
    front ++ conjunction (conjuncts table query.clause access) ++ tail
  balanced : ∀ body ∈ conjuncts table query.clause access, IsBalanced body
  outer : conjuncts table query.clause access ≠ [] →
    Sql.outerText (conjunction (conjuncts table query.clause access)) =
      " WHERE " ++
        String.join (List.replicate ((conjuncts table query.clause access).length - 1) " AND ")

section Queries

variable {site : Site} {type : ResourceType} {request : ListingRequest} {access : Access}
  {term : Option Json}

/-- The keywords of the filter of a request. -/
def Site.keywordsOf (site : Site) (request : ListingRequest) (term : Option Json) :
    Except Fault (List Keyword) :=
  match Term.ofJson (term.getD request.filter) with
  | .error fault => .error fault
  | .ok term => term.keywords site.clock site.settings.defaultSort

theorem Site.clauseOf_eq_ok {clause : Clause}
    (h : site.clauseOf type request term = .ok clause) :
    ∃ keywords, site.keywordsOf request term = .ok keywords ∧
      Clause.ofKeywords (site.registry.typeScope type
        { settings := site.settings, trash := request.trash, ignoreCap := request.ignoreCap })
        keywords = .ok clause := by
  simp only [Site.clauseOf] at h
  cases hterm : Term.ofJson (term.getD request.filter) with
  | error fault => simp [hterm] at h
  | ok read =>
    rw [hterm] at h
    simp only [Site.keywordsOf, hterm]
    exact Term.clause_eq_ok h

theorem Site.exists_ofKeywords {clause : Clause}
    (h : site.clauseOf type request term = .ok clause) :
    ∃ keywords, Clause.ofKeywords (site.registry.typeScope type
      { settings := site.settings, trash := request.trash, ignoreCap := request.ignoreCap })
      keywords = .ok clause := by
  obtain ⟨keywords, -, hkeywords⟩ := Site.clauseOf_eq_ok h
  exact ⟨keywords, hkeywords⟩

theorem Site.isBalanced_clauseOf {clause : Clause} (htype : type.IsBalanced)
    (h : site.clauseOf type request term = .ok clause) :
    ∀ condition ∈ clause.condition, IsBalanced condition := by
  intro condition hcondition
  obtain ⟨keywords, hkeywords⟩ := Site.exists_ofKeywords h
  have hsound := Clause.isSound_ofKeywords (htype.isSound_typeScope _ _) hkeywords
  exact (hsound.written condition hcondition).depthAfter

theorem ResourceType.sql_listing (clause : Clause) :
    (type.listing request access clause).statement.sql =
      "SELECT " ++ Column.selectList (type.selected request.trash) ++ " FROM " ++
        type.tableName request.trash ++
        conjunction (conjuncts (type.tableName request.trash) clause access) ++
        tailText request.ignorePagination clause := by
  rw [← whereText_eq_conjunction]
  simp only [ResourceType.listing, fromText, toString, String.append_assoc]

theorem count_from : "SELECT count(*) FROM " = "SELECT count(*)" ++ " FROM " := by decide +kernel

theorem ResourceType.sql_counting (clause : Clause) :
    (type.counting request access clause).statement.sql =
      "SELECT count(*) FROM " ++ type.tableName request.trash ++
        conjunction (conjuncts (type.tableName request.trash) clause access) := by
  rw [← whereText_eq_conjunction, count_from]
  simp only [ResourceType.counting, fromText, toString, String.append_assoc]

theorem Query.isIsolated_of_sql {table front tail : String} {query : Query}
    (htable : ∀ c ∈ table.toList, c ≠ '(' ∧ c ≠ ')') (haccess : IsBalanced access.condition)
    (hclause : ∀ condition ∈ query.clause.condition, IsBalanced condition)
    (hsql : query.statement.sql =
      front ++ conjunction (conjuncts table query.clause access) ++ tail) :
    query.IsIsolated table access front tail where
  condition := hclause
  sql := hsql
  balanced := conjuncts_isBalanced htable hclause haccess
  outer hne := by
    have hbalanced := conjuncts_isBalanced htable hclause haccess
    obtain ⟨body, bodies, hbodies⟩ := List.exists_cons_of_ne_nil hne
    rw [hbodies] at hbalanced ⊢
    exact outerText_conjunction hbalanced

/-- A filter cannot leave its conjunct: in the statements of a listing and of a count the filter,
the restriction to an owner and the access condition stand side by side. -/
theorem Site.isIsolated_query {resource : ResourceRef} (hresource : site.typeOf resource = .ok type)
    (htype : type.IsBalanced) (haccess : IsBalanced access.condition) :
    (∀ query, site.listing resource request access term = .ok query →
      query.IsIsolated (type.tableName request.trash) access
        ("SELECT " ++ Column.selectList (type.selected request.trash) ++ " FROM " ++
          type.tableName request.trash)
        (tailText request.ignorePagination query.clause)) ∧
    ∀ query, site.counting resource request access term = .ok query →
      query.IsIsolated (type.tableName request.trash) access
        ("SELECT count(*) FROM " ++ type.tableName request.trash) "" := by
  have htable := htype.tables request.trash
  constructor
  · intro query hquery
    rw [Site.listing, hresource] at hquery
    obtain ⟨clause, hclause, rfl⟩ := map_eq_ok_iff.1 hquery
    exact Query.isIsolated_of_sql htable haccess (Site.isBalanced_clauseOf htype hclause)
      (ResourceType.sql_listing clause)
  · intro query hquery
    rw [Site.counting, hresource] at hquery
    obtain ⟨clause, hclause, rfl⟩ := map_eq_ok_iff.1 hquery
    refine Query.isIsolated_of_sql htable haccess (Site.isBalanced_clauseOf htype hclause) ?_
    rw [String.append_empty]
    exact ResourceType.sql_counting clause

end Queries

/-- An alternative in the filter, an owner and an access condition with an alternative of its
own. -/
theorem Site.isIsolated_task_query :
    ∃ query, Site.listing {} (.named "task") { filter := .text "name=x or apple owner=me" }
        { condition := "tasks.hidden = 0 OR (tasks.id = 1)" } none = .ok query ∧
      query.IsIsolated "tasks" { condition := "tasks.hidden = 0 OR (tasks.id = 1)" }
        ("SELECT " ++ Column.selectList (ResourceType.taskType.selected false) ++ " FROM " ++
          "tasks")
        (tailText false query.clause) := by
  have hresource : Site.typeOf {} (.named "task") = .ok ResourceType.taskType :=
    eq_ok_of_toOption (by decide +kernel)
  have htype : ResourceType.taskType ∈ ResourceType.builtin := .tail _ (.tail _ (.head _))
  have haccess : IsBalanced
      ({ condition := "tasks.hidden = 0 OR (tasks.id = 1)" } : Access).condition := by
    decide +kernel
  have hreturns : (Site.listing {} (.named "task") { filter := .text "name=x or apple owner=me" }
      { condition := "tasks.hidden = 0 OR (tasks.id = 1)" } none).toOption.isSome = true := by
    decide +kernel
  obtain ⟨query, hquery⟩ := Option.isSome_iff_exists.1 hreturns
  have hlisting := eq_ok_of_toOption hquery
  have hisolated := @Site.isIsolated_query {} ResourceType.taskType
    { filter := .text "name=x or apple owner=me" } _ none _ hresource
    (ResourceType.isBalanced_builtin htype) haccess
  exact ⟨query, hlisting, hisolated.1 query hlisting⟩

end ListingFilter
