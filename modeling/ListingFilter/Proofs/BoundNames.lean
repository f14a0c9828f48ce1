import ListingFilter.Proofs.IsolatedConjuncts
import ListingFilter.Proofs.OrderTerms
/-!
# Declared names and given values

What is declared for the built-in resource types holds no colons, but for casts in sort templates.
So the parameters of a statement are those of its condition, its owner and its page, and these are
the ones that a value is given for.
-/

namespace ListingFilter

open Sql (Declares DeclaresAfter EndsName PairsColons pairsColons_of_notMem paramName)

/-! ### Statements in parts -/

namespace Sql

/-- The names of the parameters of a statement. -/
def parameterNames (sql : String) : List String := (declaredNames none sql.toList).map String.ofList

namespace Declares

variable {text front back name : String} {names others : Set String}

theorem mem_parameterNames (h : Declares text names) :
    name ∈ parameterNames text ↔ name ∈ names := by
  have hchars := h none [] (by simp [EndsName])
  simp only [List.append_nil, declaredNames, List.not_mem_nil, or_false] at hchars
  rw [parameterNames, List.mem_map]
  constructor
  · rintro ⟨cs, hcs, rfl⟩
    exact (hchars cs).1 hcs
  · intro hname
    refine ⟨name.toList, (hchars _).2 ?_, String.ofList_toList⟩
    rwa [String.ofList_toList]

theorem append (hfront : Declares front names) (hends : EndsName back.toList)
    (hback : Declares back others) : Declares (front ++ back) (names ∪ others) :=
  fun before => (hfront before).append hends (hback _)

theorem of_pairsColons_append (h : PairsColons front.toList) (hback : Declares back names) :
    Declares (front ++ back) names :=
  fun _ => DeclaresAfter.of_pairsColons_append h (hback _)

theorem of_pairsColons (h : PairsColons text.toList) : Declares text ∅ :=
  fun _ => DeclaresAfter.of_pairsColons h

/-- A parameter after a text that ends with a blank. -/
theorem append_param (h : PairsColons front.toList ∧ front.toList.getLast? = some ' ' ∧
    name.toList ≠ [] ∧ name.toList.all Text.isWord = true) :
    Declares (front ++ (":" ++ name)) {name} := by
  obtain ⟨hfront, hblank, hne, hword⟩ := h
  intro before
  refine DeclaresAfter.of_pairsColons_append hfront ?_
  rw [hblank, Option.some_or]
  exact DeclaresAfter.param hne (List.all_eq_true.1 hword)

end Declares

end Sql

/-! ### Conjuncts -/

theorem declares_parenthesised {body : String} (h : ∃ names, Declares body names) :
    Declares ("(" ++ body ++ ")") {name | name ∈ Sql.parameterNames body} := by
  obtain ⟨names, hbody⟩ := h
  have hnames : {name | name ∈ Sql.parameterNames body} = names ∪ ∅ := by
    ext name
    simp [hbody.mem_parameterNames]
  have hclose : Declares ")" ∅ := Declares.of_pairsColons (by decide +kernel)
  rw [String.append_assoc, hnames]
  exact Declares.of_pairsColons_append (by decide +kernel)
    (hbody.append (Sql.endsName_of_head (by simp)) hclose)

/-- Conjuncts that declare their names wherever they stand declare them side by side. -/
theorem declares_intercalate {body : String} {bodies : List String}
    (h : ∀ text ∈ body :: bodies, ∃ names, Declares text names) :
    Declares (String.intercalate " AND " ((body :: bodies).map fun body => "(" ++ body ++ ")"))
      {name | ∃ text ∈ body :: bodies, name ∈ Sql.parameterNames text} := by
  have hfirst := declares_parenthesised (h body List.mem_cons_self)
  induction bodies generalizing body with
  | nil => simpa using hfirst
  | cons next bodies ih =>
    have hrest : ∀ text ∈ next :: bodies, ∃ names, Declares text names :=
      fun text htext => h text (List.mem_cons_of_mem body htext)
    have hjoined := ih hrest (declares_parenthesised (hrest next List.mem_cons_self))
    have hunion : {name | ∃ text ∈ body :: next :: bodies, name ∈ Sql.parameterNames text} =
        {name | name ∈ Sql.parameterNames body} ∪
          {name | ∃ text ∈ next :: bodies, name ∈ Sql.parameterNames text} := by
      ext name
      simp
    rw [List.map_cons, List.map_cons, String.intercalate_cons_cons, String.append_assoc, hunion]
    exact hfirst.append (Sql.endsName_of_head (by simp))
      (Declares.of_pairsColons_append (by decide +kernel) hjoined)

theorem declares_conjunction {bodies : List String}
    (h : ∀ body ∈ bodies, ∃ names, Declares body names) :
    Declares (conjunction bodies) {name | ∃ body ∈ bodies, name ∈ Sql.parameterNames body} := by
  unfold conjunction
  cases bodies with
  | nil => simpa using Declares.of_pairsColons (by decide +kernel : PairsColons "".toList)
  | cons body bodies =>
    exact Declares.of_pairsColons_append (by decide +kernel) (declares_intercalate h)

theorem declares_restriction {table : String} (htable : ':' ∉ table.toList) :
    Declares (table ++ ".owner IN (SELECT id FROM users WHERE name = :owner_name)")
      {"owner_name"} := by
  have hparts : ".owner IN (SELECT id FROM users WHERE name = :owner_name)" =
      ".owner IN (SELECT id FROM users WHERE name = " ++ (":" ++ "owner_name") ++ ")" := by
    decide +kernel
  have hname : Declares (".owner IN (SELECT id FROM users WHERE name = " ++ (":" ++ "owner_name"))
      {"owner_name"} := Declares.append_param (by decide +kernel)
  have hclose : Declares ")" ∅ := Declares.of_pairsColons (by decide +kernel)
  rw [hparts, ← Set.union_empty {"owner_name"}]
  exact Declares.of_pairsColons_append (pairsColons_of_notMem htable)
    (hname.append (Sql.endsName_of_head (by simp)) hclose)

/-- The condition of a clause declares exactly the parameters of the clause. -/
theorem Clause.IsSound.mem_keys {clause : Clause}
    (h : clause.IsSound fun expr => PairsColons expr.toList) (name : String) :
    name ∈ keys clause.params ↔
      ∃ condition ∈ clause.condition, name ∈ Sql.parameterNames condition := by
  cases hcondition : clause.condition with
  | none => simp [h.nothing hcondition, keys]
  | some condition =>
    have hdeclares := (h.written condition hcondition).declares (by decide)
    have hkeys : keys clause.params = (List.range clause.params.length).map paramName := h.numbered
    simp [hdeclares.mem_parameterNames, hkeys]

theorem mem_keys_whereParams {clause : Clause} {name : String} :
    name ∈ keys (whereParams clause {}) ↔
      name ∈ keys clause.params ∨ ∃ owner ∈ clause.restrictingOwner?, name = "owner_name" := by
  unfold whereParams
  dsimp only
  cases howner : clause.restrictingOwner? with
  | none => simp [assignAll]
  | some owner => simp [assignAll, mem_keys_assign, or_comm]

/-- The condition of a statement declares the names that values are given for. -/
theorem declares_conjuncts {table : String} {clause : Clause} (htable : ':' ∉ table.toList)
    (hclause : clause.IsSound fun expr => PairsColons expr.toList) :
    Declares (conjunction (conjuncts table clause {}))
      {name | name ∈ keys (whereParams clause {})} := by
  have hrestriction := declares_restriction htable
  have hbody : ∀ body, body ∈ conjuncts table clause {} ↔ body ∈ clause.condition ∨
      ∃ owner ∈ clause.restrictingOwner?,
        body = table ++ ".owner IN (SELECT id FROM users WHERE name = :owner_name)" := by
    intro body
    simp [conjuncts, forOwner_eq, eq_comm]
  have hdeclares : ∀ body ∈ conjuncts table clause {}, ∃ names, Declares body names := by
    intro body hmem
    rcases (hbody body).1 hmem with hcondition | ⟨owner, -, rfl⟩
    · exact ⟨_, (hclause.written body hcondition).declares (by decide)⟩
    · exact ⟨_, hrestriction⟩
  have hnames : {name | name ∈ keys (whereParams clause {})} =
      {name | ∃ body ∈ conjuncts table clause {}, name ∈ Sql.parameterNames body} := by
    ext name
    rw [Set.mem_ofPred_eq, Set.mem_ofPred_eq, mem_keys_whereParams, hclause.mem_keys]
    constructor
    · rintro (⟨condition, hcondition, hname⟩ | ⟨owner, howner, rfl⟩)
      · exact ⟨condition, (hbody _).2 (.inl hcondition), hname⟩
      · exact ⟨_, (hbody _).2 (.inr ⟨owner, howner, rfl⟩), hrestriction.mem_parameterNames.2 rfl⟩
    · rintro ⟨body, hmem, hname⟩
      rcases (hbody body).1 hmem with hcondition | ⟨owner, howner, rfl⟩
      · exact .inl ⟨body, hcondition, hname⟩
      · exact .inr ⟨owner, howner, hrestriction.mem_parameterNames.1 hname⟩
  rw [hnames]
  exact declares_conjunction hdeclares

/-! ### The page -/

theorem declares_pageText (ignorePagination : Bool) (clause : Clause) :
    Declares (pageText ignorePagination clause)
      {name | name ∈ keys (pageParams ignorePagination clause)} := by
  have hlimit : Declares " LIMIT :limit" {"limit"} := by
    rw [show " LIMIT :limit" = " LIMIT " ++ (":" ++ "limit") by decide +kernel]
    exact Declares.append_param (by decide +kernel)
  have hoffset : Declares " OFFSET :offset" {"offset"} := by
    rw [show " OFFSET :offset" = " OFFSET " ++ (":" ++ "offset") by decide +kernel]
    exact Declares.append_param (by decide +kernel)
  have hempty : Declares "" ∅ := Declares.of_pairsColons (by decide +kernel)
  unfold pageText pageParams
  cases ignorePagination with
  | true => simpa [keys] using hempty
  | false =>
    have hends : EndsName " OFFSET :offset".toList := Sql.endsName_of_head (by simp)
    by_cases hmax : 0 < clause.max <;> by_cases hfirst : 0 < clause.first
    · simpa [hmax, hfirst, keys, Set.insert_def, or_comm] using hlimit.append hends hoffset
    · simpa [hmax, hfirst, keys] using hlimit
    · simpa [hmax, hfirst, keys] using hoffset
    · simpa [hmax, hfirst, keys] using hempty

/-! ### What is declared for a resource type -/

/-- What is declared for the type holds no colons, but in pairs in its sort templates. -/
structure ResourceType.DeclaresNothing (type : ResourceType) : Prop where
  columns : ∀ column ∈ type.selectColumns ++ type.whereColumns, ':' ∉ column.select.toList
  names : ∀ column ∈ type.selectColumns, ∀ name ∈ column.filter, ':' ∉ name.toList
  tables : ∀ trash, ':' ∉ (type.tableName trash).toList
  sorts : ∀ sort ∈ type.sorts, Sql.Template.KeepsPairs sort.2.toList

namespace ResourceType

/-- The templates of the built-in types. -/
def sortTemplates : List String :=
  [severitySort, nativeSort, addressSort, threatSort, lowerSort, rolesSort, taskStatusSort,
    reportStatusSort, annotationSort]

theorem keepsPairs_sortTemplates {template : String} (h : template ∈ sortTemplates) :
    Sql.Template.KeepsPairs template.toList := by
  have hall : ∀ template ∈ sortTemplates, ∃ cs ∈ Text.asciiChars? template,
      Sql.Template.KeepsPairs cs := by decide +kernel
  exact Text.of_asciiChars? (hall template h)

theorem sorts_builtin {type : ResourceType} (h : type ∈ builtin) :
    ∃ updates, type.sorts = assignAll commonSorts updates ∧
      ∀ sort ∈ updates, sort.2 ∈ sortTemplates := by
  simp only [builtin, List.mem_cons, List.not_mem_nil, or_false] at h
  rcases h with rfl | rfl | rfl | rfl | rfl | rfl | rfl | rfl | rfl | rfl | rfl | rfl | rfl
  all_goals exact ⟨_, rfl, by simp [sortTemplates]⟩

/-- The same few templates sort most fields, so what is checked of them is not checked for each
field. -/
theorem mem_sortTemplates {type : ResourceType} (h : type ∈ builtin) {sort : String × String}
    (hsort : sort ∈ type.sorts) : sort.2 ∈ sortTemplates := by
  obtain ⟨updates, hsorts, hupdates⟩ := sorts_builtin h
  rw [hsorts] at hsort
  rcases mem_assignAll hsort with hcommon | hupdate
  · rcases List.mem_append.1 hcommon with hcommon | hcommon
    · obtain ⟨field, -, rfl⟩ := List.mem_map.1 hcommon
      simp [sortTemplates]
    · obtain ⟨field, -, rfl⟩ := List.mem_map.1 hcommon
      simp [sortTemplates]
  · exact hupdates sort hupdate

theorem declaresNothing_builtin {type : ResourceType} (h : type ∈ builtin) :
    type.DeclaresNothing where
  columns := by
    have hcolumns : ∀ type ∈ builtin, ∀ column ∈ type.selectColumns ++ type.whereColumns,
        ∃ cs ∈ Text.asciiChars? column.select, ':' ∉ cs := by decide +kernel
    intro column hcolumn
    exact Text.of_asciiChars? (hcolumns type h column hcolumn)
  names := by
    have hnames : ∀ type ∈ builtin, ∀ column ∈ type.selectColumns, ∀ name ∈ column.filter,
        ∃ cs ∈ Text.asciiChars? name, ':' ∉ cs := by decide +kernel
    intro column hcolumn name hname
    exact Text.of_asciiChars? (hnames type h column hcolumn name hname)
  tables := by
    have htables : ∀ type ∈ builtin, ∀ trash, ∃ cs ∈ Text.asciiChars? (type.tableName trash),
        ':' ∉ cs := by decide +kernel
    intro trash
    exact Text.of_asciiChars? (htables type h trash)
  sorts _ hsort := keepsPairs_sortTemplates (mem_sortTemplates h hsort)

theorem notMem_bindColumn {table : String} {column : Column} (htable : ':' ∉ table.toList)
    (hcolumn : ':' ∉ column.select.toList) : ':' ∉ (bindColumn table column).select.toList := by
  intro hmem
  rw [bindColumn, Text.substitute, String.toList_ofList] at hmem
  rcases Text.mem_substituteChars hmem with hmem | hmem
  · exact htable hmem
  · exact hcolumn hmem

variable {type : ResourceType}

theorem DeclaresNothing.isSound_typeScope (h : type.DeclaresNothing) (registry : Registry)
    (options : CompileOptions) :
    (registry.typeScope type options).IsSound fun expr => PairsColons expr.toList := by
  have htable := h.tables options.trash
  refine ResourceType.isSound_typeScope registry options ?_ (pairsColons_of_notMem htable) ?_
  · intro column hcolumn
    exact pairsColons_of_notMem (notMem_bindColumn htable (h.columns column hcolumn))
  · intro name hplain
    exact pairsColons_of_notMem fun hmem => (hplain ':' hmem).2.2 rfl

theorem sorts_typeScope {registry : Registry}
    (hregistered : lookup? registry (Text.lower type.name) = some type) (options : CompileOptions) :
    (registry.typeScope type options).sorts = type.sorts := by
  simp [Registry.typeScope, Registry.scope, hregistered]

theorem DeclaresNothing.isSound_sortScope (h : type.DeclaresNothing) {registry : Registry}
    (hregistered : lookup? registry (Text.lower type.name) = some type)
    (options : CompileOptions) : (registry.typeScope type options).toSortScope.IsSound where
  columns := (h.isSound_typeScope registry options).columns
  table := (h.isSound_typeScope registry options).table
  sorts := by
    rw [sorts_typeScope hregistered]
    exact h.sorts

theorem DeclaresNothing.pairsColons_selectList (h : type.DeclaresNothing) (trash : Bool) :
    PairsColons (Column.selectList (type.selected trash)).toList := by
  unfold Column.selectList
  split_ifs
  · decide +kernel
  · refine pairsColons_intercalate (by decide +kernel) fun item hitem => ?_
    obtain ⟨bound, hbound, rfl⟩ := List.mem_map.1 hitem
    obtain ⟨column, hcolumn, rfl⟩ := List.mem_map.1 hbound
    have hselect := pairsColons_of_notMem (notMem_bindColumn (h.tables trash)
      (h.columns column (List.mem_append_left _ hcolumn)))
    unfold Column.selectItem
    split
    · rename_i name hname
      split_ifs
      · exact hselect
      · exact pairsColons_append (pairsColons_append hselect (by decide +kernel))
          (pairsColons_of_notMem (h.names column hcolumn name hname))
    · exact hselect

end ResourceType

/-! ### Queries -/

/-- Every parameter that a statement declares has a value, and every value has its parameter. Those
of the clause are numbered, and its condition declares them. -/
structure Query.BindsDeclared (query : Query) : Prop where
  names : ∀ name, name ∈ Sql.parameterNames query.statement.sql ↔ name ∈ keys query.statement.params
  given : Sql.checkGiven (Sql.parameterNames query.statement.sql) query.statement.params = .ok ()
  numbered : ∃ n, keys query.clause.params = (List.range n).map paramName
  occurs : ∀ name ∈ keys query.clause.params, ∃ condition ∈ query.clause.condition,
    name ∈ Sql.parameterNames condition

theorem Sql.checkGiven_eq_ok {names : List String} {params : List (String × Json)}
    (hreserved : ∀ name ∈ keys params, name ∉ reservedNames)
    (hnames : ∀ name ∈ keys params, name ∈ names) : checkGiven names params = .ok () := by
  have hfree : (params.find? fun param => reservedNames.contains param.1) = none := by
    rw [List.find?_eq_none]
    intro param hparam
    rw [List.contains_iff_mem]
    exact hreserved param.1 (List.mem_map_of_mem hparam)
  have hdeclared : (params.find? fun param => !names.contains param.1) = none := by
    rw [List.find?_eq_none]
    intro param hparam
    simpa using hnames param.1 (List.mem_map_of_mem hparam)
  rw [checkGiven, hfree, hdeclared]

theorem paramName_notMem_reservedNames (n : Nat) : paramName n ∉ Sql.reservedNames := by
  simp only [Sql.reservedNames, List.mem_cons, List.not_mem_nil, or_false, not_or]
  exact ⟨Sql.paramName_ne (by decide) n, Sql.paramName_ne (by decide) n⟩

/-- No value of a statement is given under a reserved name. -/
theorem keys_notMem_reservedNames {clause : Clause}
    (h : clause.IsSound fun expr => PairsColons expr.toList) {ignorePagination : Bool}
    {name : String} (hname : name ∈ keys (whereParams clause {}) ∨
      name ∈ keys (pageParams ignorePagination clause)) :
    name ∉ Sql.reservedNames := by
  rcases hname with hname | hname
  · rcases mem_keys_whereParams.1 hname with hname | ⟨owner, -, rfl⟩
    · rw [keys, h.numbered] at hname
      obtain ⟨n, -, rfl⟩ := List.mem_map.1 hname
      exact paramName_notMem_reservedNames n
    · decide +kernel
  · unfold pageParams at hname
    split_ifs at hname
    · cases hname
    all_goals
      simp only [keys, List.map_append, List.map_cons, List.map_nil, List.append_nil,
        List.nil_append, List.mem_append, List.mem_singleton, List.not_mem_nil] at hname
    · rcases hname with rfl | rfl <;> decide +kernel
    · subst hname
      decide +kernel
    · subst hname
      decide +kernel

theorem Query.bindsDeclared_of_declares {query : Query} {ignorePagination : Bool}
    (hclause : query.clause.IsSound fun expr => PairsColons expr.toList)
    (hsql : Declares query.statement.sql {name | name ∈ keys query.statement.params})
    (hparams : ∀ name ∈ keys query.statement.params, name ∈ keys (whereParams query.clause {}) ∨
      name ∈ keys (pageParams ignorePagination query.clause)) : query.BindsDeclared where
  names _ := hsql.mem_parameterNames
  given := Sql.checkGiven_eq_ok
    (fun name hname => keys_notMem_reservedNames hclause (hparams name hname))
    fun _ hname => hsql.mem_parameterNames.2 hname
  numbered := ⟨_, hclause.numbered⟩
  occurs name hname := (hclause.mem_keys name).1 hname

theorem endsName_tailText (ignorePagination : Bool) (clause : Clause) :
    EndsName (tailText ignorePagination clause).toList := by
  have hempty : EndsName "".toList := by simp [EndsName]
  have hlimit : EndsName " LIMIT :limit".toList := Sql.endsName_of_head (by simp)
  have hoffset : EndsName " OFFSET :offset".toList := Sql.endsName_of_head (by simp)
  unfold tailText pageText
  rw [String.toList_append]
  apply EndsName.append
  · split_ifs
    · exact hempty
    · exact Sql.endsName_of_head (by simp)
  · split_ifs
    · exact hempty
    all_goals rw [String.toList_append]
    · exact hlimit.append hoffset
    · exact hlimit.append hempty
    · exact hempty.append hoffset
    · exact hempty.append hempty

theorem declares_tailText {clause : Clause} (horder : PairsColons clause.order.toList)
    (ignorePagination : Bool) :
    Declares (tailText ignorePagination clause)
      {name | name ∈ keys (pageParams ignorePagination clause)} := by
  unfold tailText
  refine Declares.of_pairsColons_append ?_ (declares_pageText ignorePagination clause)
  split_ifs
  · decide +kernel
  · exact pairsColons_append (by decide +kernel) horder

section Queries

variable {site : Site} {type : ResourceType} {request : ListingRequest} {term : Option Json}
  {clause : Clause}

theorem ResourceType.DeclaresNothing.bindsDeclared_listing (h : type.DeclaresNothing)
    (hclause : clause.IsSound fun expr => PairsColons expr.toList)
    (horder : PairsColons clause.order.toList) :
    (type.listing request {} clause).BindsDeclared := by
  have htable := h.tables request.trash
  have hfront : PairsColons ("SELECT " ++ Column.selectList (type.selected request.trash) ++
      " FROM " ++ type.tableName request.trash).toList :=
    pairsColons_append (pairsColons_append (pairsColons_append (by decide +kernel)
      (h.pairsColons_selectList request.trash)) (by decide +kernel)) (pairsColons_of_notMem htable)
  have hkeys : {name | name ∈ keys (type.listing request {} clause).statement.params} =
      {name | name ∈ keys (whereParams clause {})} ∪
        {name | name ∈ keys (pageParams request.ignorePagination clause)} := by
    ext name
    exact mem_keys_assignAll
  refine Query.bindsDeclared_of_declares hclause ?_ fun name hname => mem_keys_assignAll.1 hname
  rw [ResourceType.sql_listing, String.append_assoc, hkeys]
  exact Declares.of_pairsColons_append hfront ((declares_conjuncts htable hclause).append
    (endsName_tailText _ _) (declares_tailText horder _))

theorem ResourceType.DeclaresNothing.bindsDeclared_counting (h : type.DeclaresNothing)
    (hclause : clause.IsSound fun expr => PairsColons expr.toList) :
    (type.counting request {} clause).BindsDeclared := by
  have htable := h.tables request.trash
  have hfront : PairsColons ("SELECT count(*) FROM " ++ type.tableName request.trash).toList :=
    pairsColons_append (by decide +kernel) (pairsColons_of_notMem htable)
  refine @Query.bindsDeclared_of_declares _ true hclause ?_ fun name hname => .inl hname
  rw [ResourceType.sql_counting]
  exact Declares.of_pairsColons_append hfront (declares_conjuncts htable hclause)

theorem ResourceType.lower_name_builtin (h : type ∈ builtin) :
    Text.lower type.name = type.name := by
  have hlower : ∀ type ∈ builtin, Text.lower type.name = type.name := by decide +kernel
  exact hlower type h

/-- In the statements for a built-in resource type, that of a listing and that of a count, every
declared parameter has a value and every value its parameter. -/
theorem Site.bindsDeclared_query {resource : ResourceRef}
    (hresource : site.typeOf resource = .ok type) (htype : type ∈ ResourceType.builtin)
    (hregistered : lookup? site.registry type.name = some type) :
    (∀ query, site.listing resource request {} term = .ok query → query.BindsDeclared) ∧
      ∀ query, site.counting resource request {} term = .ok query → query.BindsDeclared := by
  have hnothing := ResourceType.declaresNothing_builtin htype
  rw [← ResourceType.lower_name_builtin htype] at hregistered
  constructor
  · intro query hquery
    rw [Site.listing, hresource] at hquery
    obtain ⟨clause, hclause, rfl⟩ := map_eq_ok_iff.1 hquery
    obtain ⟨keywords, hkeywords⟩ := Site.exists_ofKeywords hclause
    exact hnothing.bindsDeclared_listing
      (Clause.isSound_ofKeywords (hnothing.isSound_typeScope _ _) hkeywords)
      (Clause.pairsColons_order (hnothing.isSound_sortScope hregistered _) hkeywords)
  · intro query hquery
    rw [Site.counting, hresource] at hquery
    obtain ⟨clause, hclause, rfl⟩ := map_eq_ok_iff.1 hquery
    obtain ⟨keywords, hkeywords⟩ := Site.exists_ofKeywords hclause
    exact hnothing.bindsDeclared_counting
      (Clause.isSound_ofKeywords (hnothing.isSound_typeScope _ _) hkeywords)

end Queries

/-- A condition, an owner and a page, ordered by a template with casts. -/
theorem Site.bindsDeclared_task_query :
    ∃ query, Site.listing {} (.named "task")
        { filter := .text "name=x owner=me sort=severity first=5" } {} none = .ok query ∧
      query.BindsDeclared := by
  have hresource : Site.typeOf {} (.named "task") = .ok ResourceType.taskType :=
    eq_ok_of_toOption (by decide +kernel)
  have hreturns : (Site.listing {} (.named "task")
      { filter := .text "name=x owner=me sort=severity first=5" } {}
      none).toOption.isSome = true := by
    decide +kernel
  obtain ⟨query, hquery⟩ := Option.isSome_iff_exists.1 hreturns
  have hlisting := eq_ok_of_toOption hquery
  have hregistered : lookup? Registry.builtin "task" = some ResourceType.taskType := by
    decide +kernel
  have hbuiltin : ResourceType.taskType ∈ ResourceType.builtin := .tail _ (.tail _ (.head _))
  exact ⟨query, hlisting,
    (Site.bindsDeclared_query hresource hbuiltin hregistered).1 query hlisting⟩

end ListingFilter
