import ListingFilter.Proofs.Entries
import ListingFilter.Proofs.IsolatedConjuncts
/-!
# The values of parameters

Three sources give values to the parameters of a statement: the filter to those of its conditions,
the caller to those of the access condition, and the statement itself to the owner that restricts it
and to the bounds of the page. Where two of them give a value under one name, the caller goes before
the filter and the statement before the caller. The names of the filter are numbered, so the
statement takes none of them, but a caller who uses a name of the statement loses the value.
-/

namespace ListingFilter

/-! ### What a statement binds by itself -/

/-- The owner that restricts a statement, as a parameter. -/
def ownerParams (clause : Clause) : List (String × Json) :=
  forOwner clause.owner fun owner => ("owner_name", Json.text owner)

theorem whereParams_eq_assignAll (clause : Clause) (access : Access) :
    whereParams clause access =
      assignAll (assignAll clause.params access.params) (ownerParams clause) := by
  unfold whereParams ownerParams
  rw [forOwner_eq]
  cases clause.restrictingOwner? <;> rfl

theorem assignAll_append {α : Type} (entries updates later : List (String × α)) :
    assignAll entries (updates ++ later) = assignAll (assignAll entries updates) later :=
  List.foldl_append

/-- A statement binds at most the owner and the two bounds of the page, each once. -/
theorem keys_ownParams (ignorePagination : Bool) (clause : Clause) :
    (keys (ownerParams clause ++ pageParams ignorePagination clause)).Sublist
      ["owner_name", "limit", "offset"] := by
  have howner : (keys (ownerParams clause)).Sublist ["owner_name"] := by
    rw [ownerParams, forOwner_eq]
    cases clause.restrictingOwner? <;> simp [keys]
  have hpage : (keys (pageParams ignorePagination clause)).Sublist ["limit", "offset"] := by
    unfold pageParams
    split_ifs <;> simp [keys]
  rw [keys, List.map_append]
  exact howner.append hpage

/-! ### The names of a filter -/

theorem paramName_notMem_ownNames (n : Nat) :
    Sql.paramName n ∉ ["owner_name", "limit", "offset"] := by
  simp only [List.mem_cons, List.not_mem_nil, or_false, not_or]
  exact ⟨Sql.paramName_ne (by decide) n, Sql.paramName_ne (by decide) n,
    Sql.paramName_ne (by decide) n⟩

/-- The parameters of a clause are numbered, whatever it is compiled against. -/
theorem Clause.exists_paramName {scope : Scope} {keywords : List Keyword} {clause : Clause}
    (h : Clause.ofKeywords scope keywords = .ok clause) {name : String}
    (hname : name ∈ keys clause.params) : ∃ n, name = Sql.paramName n := by
  have hscope : scope.IsSound fun _ => True :=
    ⟨fun _ _ => trivial, fun _ _ => trivial, fun _ _ => trivial⟩
  rw [keys, (Clause.isSound_ofKeywords hscope h).numbered] at hname
  obtain ⟨n, -, rfl⟩ := List.mem_map.1 hname
  exact ⟨n, rfl⟩

/-! ### Statements -/

/-- Each parameter has the value that the statement itself binds it to, or else the one of the
caller, or else the one of the filter. A value of the filter gives way to the caller only. -/
structure Query.KeepsValues (bound : List (String × Json)) (access : Access) (query : Query) :
    Prop where
  statement : ∀ name value, lookup? bound name = some value →
    lookup? query.statement.params name = some value
  caller : ∀ name value, lookup? access.params name = some value → name ∉ keys bound →
    lookup? query.statement.params name = some value
  filter : ∀ name value, lookup? query.clause.params name = some value →
    name ∉ keys access.params → lookup? query.statement.params name = some value

theorem Query.keepsValues_of_params {query : Query} {bound : List (String × Json)}
    {access : Access} (hbound : (keys bound).Nodup) (haccess : (keys access.params).Nodup)
    (hfilter : ∀ name ∈ keys query.clause.params, name ∉ keys bound)
    (hparams : query.statement.params =
      assignAll (assignAll query.clause.params access.params) bound) :
    query.KeepsValues bound access := by
  have hvalue : ∀ name, lookup? query.statement.params name =
      (lookup? bound name).or
        ((lookup? access.params name).or (lookup? query.clause.params name)) := by
    intro name
    rw [hparams, lookup?_assignAll hbound, lookup?_assignAll haccess]
  refine ⟨fun name value hname => ?_, fun name value hname hfree => ?_,
    fun name value hname hfree => ?_⟩
  · rw [hvalue, hname, Option.some_or]
  · rw [hvalue, lookup?_eq_none_iff.2 hfree, hname, Option.none_or, Option.some_or]
  · have hmem : name ∈ keys query.clause.params :=
      List.mem_map_of_mem (mem_of_lookup? hname)
    rw [hvalue, lookup?_eq_none_iff.2 (hfilter name hmem), lookup?_eq_none_iff.2 hfree,
      Option.none_or, Option.none_or, hname]

section Queries

variable {site : Site} {type : ResourceType} {resource : ResourceRef} {request : ListingRequest}
  {access : Access} {term : Option Json}

theorem Site.listing_eq_ok {query : Query}
    (h : site.listing resource request access term = .ok query) :
    ∃ type clause, site.clauseOf type request term = .ok clause ∧
      query = type.listing request access clause := by
  unfold Site.listing at h
  cases htype : site.typeOf resource with
  | error fault => simp [htype] at h
  | ok type =>
    rw [htype] at h
    obtain ⟨clause, hclause, rfl⟩ := map_eq_ok_iff.1 h
    exact ⟨type, clause, hclause, rfl⟩

theorem Site.counting_eq_ok {query : Query}
    (h : site.counting resource request access term = .ok query) :
    ∃ type clause, site.clauseOf type request term = .ok clause ∧
      query = type.counting request access clause := by
  unfold Site.counting at h
  cases htype : site.typeOf resource with
  | error fault => simp [htype] at h
  | ok type =>
    rw [htype] at h
    obtain ⟨clause, hclause, rfl⟩ := map_eq_ok_iff.1 h
    exact ⟨type, clause, hclause, rfl⟩

/-- What a statement binds by itself it binds once, and under no name of its clause. -/
theorem Site.ownParams_of_clauseOf {clause : Clause}
    (h : site.clauseOf type request term = .ok clause) (ignorePagination : Bool) :
    (keys (ownerParams clause ++ pageParams ignorePagination clause)).Nodup ∧
      ∀ name ∈ keys clause.params,
        name ∉ keys (ownerParams clause ++ pageParams ignorePagination clause) := by
  obtain ⟨keywords, hkeywords⟩ := Site.exists_ofKeywords h
  have hsub := keys_ownParams ignorePagination clause
  refine ⟨hsub.nodup (by decide), fun name hname hown => ?_⟩
  obtain ⟨n, rfl⟩ := Clause.exists_paramName hkeywords hname
  exact paramName_notMem_ownNames n (hsub.subset hown)

/-- A listing and a count keep the values of the caller, but for the owner that restricts them and
the bounds of the page, and those of the filter, but for names that the caller takes. -/
theorem Site.keepsValues_query (haccess : (keys access.params).Nodup) :
    (∀ query, site.listing resource request access term = .ok query →
      query.KeepsValues (ownerParams query.clause ++
        pageParams request.ignorePagination query.clause) access) ∧
    ∀ query, site.counting resource request access term = .ok query →
      query.KeepsValues (ownerParams query.clause) access := by
  constructor
  · intro query hquery
    obtain ⟨type, clause, hclause, rfl⟩ := Site.listing_eq_ok hquery
    obtain ⟨hnodup, hfilter⟩ := Site.ownParams_of_clauseOf hclause request.ignorePagination
    refine Query.keepsValues_of_params hnodup haccess hfilter ?_
    rw [assignAll_append, ← whereParams_eq_assignAll]
    rfl
  · intro query hquery
    obtain ⟨type, clause, hclause, rfl⟩ := Site.counting_eq_ok hquery
    have hown := Site.ownParams_of_clauseOf hclause true
    rw [pageParams, if_pos rfl, List.append_nil] at hown
    exact Query.keepsValues_of_params hown.1 haccess hown.2 (whereParams_eq_assignAll clause access)

end Queries

/-- The caller keeps the tenant and loses the limit to the page. -/
theorem Site.keepsValues_task_query :
    ∃ query, Site.listing {} (.named "task") { filter := .text "name=x owner=bob rows=7" }
        { condition := "tasks.tenant = :tenant"
          params := [("tenant", .integer 3), ("limit", .integer 99)] } none = .ok query ∧
      query.clause.restrictingOwner? = some "bob" ∧
      query.KeepsValues (ownerParams query.clause ++ pageParams false query.clause)
        { condition := "tasks.tenant = :tenant"
          params := [("tenant", .integer 3), ("limit", .integer 99)] } := by
  have howner : ((Site.listing {} (.named "task") { filter := .text "name=x owner=bob rows=7" }
      { condition := "tasks.tenant = :tenant"
        params := [("tenant", .integer 3), ("limit", .integer 99)] } none).map
        fun query => query.clause.restrictingOwner?).toOption = some (some "bob") := by
    decide +kernel
  obtain ⟨query, hlisting, howner⟩ := map_eq_ok_iff.1 (eq_ok_of_toOption howner)
  exact ⟨query, hlisting, howner, (Site.keepsValues_query (by decide)).1 query hlisting⟩

/-- A caller whose access condition asks for the owner `eve` gets the rows of the owner that the
filter names. -/
theorem Site.counting_replaces_owner :
    ∃ query, Site.counting {} (.named "task") { filter := .text "owner=bob" }
        { condition := "tasks.owner = :owner_name", params := [("owner_name", .text "eve")] }
        none = .ok query ∧
      lookup? query.clause.params "owner_name" = none ∧
      lookup? query.statement.params "owner_name" = some (.text "bob") ∧
      lookup? query.statement.params "owner_name" ≠ some (.text "eve") := by
  have howner : ((Site.counting {} (.named "task") { filter := .text "owner=bob" }
      { condition := "tasks.owner = :owner_name", params := [("owner_name", .text "eve")] }
      none).map fun query => (keys query.clause.params, query.clause.restrictingOwner?)).toOption =
        some ([], some "bob") := by
    decide +kernel
  obtain ⟨query, hcounting, hfields⟩ := map_eq_ok_iff.1 (eq_ok_of_toOption howner)
  obtain ⟨hkeys, howner⟩ := Prod.mk.inj hfields
  obtain ⟨type, clause, -, rfl⟩ := Site.counting_eq_ok hcounting
  have hvalue : lookup? (whereParams clause
      { condition := "tasks.owner = :owner_name", params := [("owner_name", .text "eve")] })
      "owner_name" = some (.text "bob") := by
    have hrestricting : clause.restrictingOwner? = some "bob" := howner
    rw [whereParams, hrestricting]
    exact lookup?_assign.trans (if_pos rfl)
  refine ⟨_, hcounting, ?_, hvalue, ?_⟩
  · rw [lookup?_eq_none_iff, hkeys]
    exact List.not_mem_nil
  · intro heve
    simpa using Option.some.inj (hvalue.symm.trans heve)

end ListingFilter
