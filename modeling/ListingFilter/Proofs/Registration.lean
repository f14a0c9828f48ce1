import ListingFilter.Proofs.Entries
import ListingFilter.Proofs.Outcomes
import ListingFilter.Query
/-!
# Resource types that are not registered

A listing of a resource type that is given by itself takes the table and the columns from the type,
but the sort templates and the known values from the registry. Under a name that nobody registered
there are no templates, and the known values are the common ones. Registering the type puts its own
in their place, so the listing changes if the filter sorts by a template or searches a column of
which other values are known.
-/

namespace ListingFilter

/-! ### What a type is compiled against -/

/-- What a filter is compiled against that uses all tables of the type. -/
def ResourceType.ownScope (type : ResourceType) (options : CompileOptions) : Scope :=
  { filterColumns := type.filterColumns
    selectColumns := type.selected options.trash
    whereColumns := type.filtered options.trash
    sorts := type.sorts
    table := some (type.tableName options.trash)
    resourceType := type.name
    enums := type.enums
    settings := options.settings
    ignoreCap := options.ignoreCap }

/-- The scope without sort templates, and with the common known values. -/
def Scope.withoutRules (scope : Scope) : Scope := { scope with sorts := [], enums := commonEnums }

namespace Registry

variable {registry : Registry} {type : ResourceType}

theorem typeScope_of_registered (hname : Text.lower type.name = type.name)
    (h : lookup? registry type.name = some type) (options : CompileOptions) :
    registry.typeScope type options = type.ownScope options := by
  simp only [typeScope, scope, hname, h]
  rfl

theorem typeScope_of_notRegistered (hname : Text.lower type.name = type.name)
    (h : lookup? registry type.name = none) (options : CompileOptions) :
    registry.typeScope type options = (type.ownScope options).withoutRules := by
  simp only [typeScope, scope, hname, h]
  rfl

theorem lookup?_register (registry : Registry) (type : ResourceType) :
    lookup? (registry.register type) type.name = some type :=
  lookup?_assign.trans (if_pos rfl)

end Registry

/-! ### Keywords that no rule of a type touches -/

/-- The keyword means the same under the sort templates and the known values of the scope as without
them: a sort field has no template of its own, and free text could match the same columns. -/
structure Keyword.IsIndifferent (scope : Scope) (keyword : Keyword) : Prop where
  sort : keyword.column = some "sort" ∨ keyword.column = some "sort-reverse" →
    filterColumnApplies scope.filterColumns (Text.trim keyword.text) = true →
    nonempty (lookup? scope.sorts (Text.trim keyword.text)) = none
  freeText : keyword.column = none → keyword.operator? = none → keyword.equal = false →
    ∀ name ∈ scope.filterColumns, isOutOfReach name = false →
      enumAllows scope.enums name keyword.text = enumAllows commonEnums name keyword.text

instance (scope : Scope) (keyword : Keyword) : Decidable (keyword.IsIndifferent scope) :=
  decidable_of_iff
    ((keyword.column = some "sort" ∨ keyword.column = some "sort-reverse" →
        filterColumnApplies scope.filterColumns (Text.trim keyword.text) = true →
        nonempty (lookup? scope.sorts (Text.trim keyword.text)) = none) ∧
      (keyword.column = none → keyword.operator? = none → keyword.equal = false →
        ∀ name ∈ scope.filterColumns, isOutOfReach name = false →
          enumAllows scope.enums name keyword.text = enumAllows commonEnums name keyword.text))
    ⟨fun h => ⟨h.1, h.2⟩, fun h => ⟨h.sort, h.freeText⟩⟩

section Steps

variable {scope : Scope} {keyword : Keyword} {keywords : List Keyword}

theorem orderTerm_withoutRules {field : String}
    (h : filterColumnApplies scope.filterColumns field = true →
      nonempty (lookup? scope.sorts field) = none) (primary : Bool) (direction : String) :
    orderTerm scope.withoutRules.toSortScope primary field direction =
      orderTerm scope.toSortScope primary field direction := by
  cases happlies : filterColumnApplies scope.filterColumns field with
  | false => simp only [orderTerm, Scope.withoutRules, happlies, Bool.not_false, if_pos]
  | true =>
    have htemplate : ∀ expr, templateTerm? scope.toSortScope field direction expr = none := by
      intro expr
      simp only [templateTerm?, h happlies]
    have hwithout : ∀ expr, templateTerm? scope.withoutRules.toSortScope field direction expr =
        none := fun _ => rfl
    simp only [orderTerm, htemplate, hwithout]
    rfl

theorem freeTextProbes_withoutRules (regexp : Bool)
    (h : keyword.equal = false → ∀ name ∈ scope.filterColumns, isOutOfReach name = false →
      enumAllows scope.enums name keyword.text = enumAllows commonEnums name keyword.text) :
    freeTextProbes scope.selectColumns scope.whereColumns commonEnums keyword regexp
        scope.filterColumns =
      freeTextProbes scope.selectColumns scope.whereColumns scope.enums keyword regexp
        scope.filterColumns := by
  have htargets : ∀ name ∈ scope.filterColumns,
      freeTextTarget? scope.selectColumns scope.whereColumns commonEnums keyword name =
        freeTextTarget? scope.selectColumns scope.whereColumns scope.enums keyword name := by
    intro name hname
    unfold freeTextTarget?
    cases hreach : isOutOfReach name with
    | true => rfl
    | false =>
      cases hequal : keyword.equal with
      | true => simp
      | false => simp only [h hequal name hname hreach]
  rw [freeTextProbes, freeTextProbes, List.filterMap_congr htargets]

namespace Draft

theorem condition_withoutRules (h : keyword.IsIndifferent scope)
    (hoperator : keyword.operator? = none) (span : Span) :
    condition scope.withoutRules span keyword = condition scope span keyword := by
  unfold condition
  cases hcolumn : keyword.column with
  | some column => rfl
  | none =>
    have hprobes := freeTextProbes_withoutRules span.regexp (h.freeText hcolumn hoperator)
    simp only [Scope.withoutRules, hprobes]

/-- A keyword that no rule of the type touches does the same without the rules. -/
theorem add_withoutRules (h : keyword.IsIndifferent scope) (draft : Draft) :
    draft.add scope.withoutRules keyword = draft.add scope keyword := by
  cases hoperator : keyword.operator? with
  | some operator => simp only [add, hoperator]
  | none =>
    have hterm : draft.addTerm scope.withoutRules keyword = draft.addTerm scope keyword := by
      rw [addTerm, addTerm, condition_withoutRules h hoperator]
    cases hcolumn : keyword.column with
    | none => simp only [add, hoperator, hcolumn, hterm]
    | some column =>
      have hcontrol : draft.addControl scope.withoutRules column keyword =
          draft.addControl scope column keyword := by
        unfold addControl
        split_ifs with hsort
        · have hplain := h.sort (by simpa [hcolumn] using hsort)
          rw [orderTerm_withoutRules hplain]
        all_goals rfl
      simp only [add, hoperator, hcolumn, hterm, hcontrol]

theorem foldlM_withoutRules (h : ∀ keyword ∈ keywords, keyword.IsIndifferent scope)
    (draft : Draft) :
    keywords.foldlM (Draft.add scope.withoutRules) draft =
      keywords.foldlM (Draft.add scope) draft := by
  induction keywords generalizing draft with
  | nil => rfl
  | cons keyword rest ih =>
    obtain ⟨hkeyword, hrest⟩ := List.forall_mem_cons.1 h
    rw [List.foldlM_cons, List.foldlM_cons, add_withoutRules hkeyword]
    exact bind_congr (ih hrest)

end Draft

theorem Clause.compile_withoutRules {clock : Clock} {term : String}
    (h : ∀ keywords, split clock term scope.settings.defaultSort = .ok keywords →
      ∀ keyword ∈ keywords, keyword.IsIndifferent scope) :
    Clause.compile clock scope.withoutRules term = Clause.compile clock scope term := by
  unfold Clause.compile
  cases hsplit : split clock term scope.settings.defaultSort with
  | error fault => simp only [Scope.withoutRules, hsplit]
  | ok keywords =>
    have hfold := Draft.foldlM_withoutRules (h keywords hsplit) (Draft.empty scope)
    have hempty : Draft.empty scope.withoutRules = Draft.empty scope := rfl
    have hsettings : scope.withoutRules.settings = scope.settings := rfl
    simp only [hsettings, hsplit, Clause.ofKeywords, hempty, hfold]

end Steps

/-! ### Listings before and after the registration -/

namespace Site

/-- The site after the registration of `type`. -/
def register (site : Site) (type : ResourceType) : Site :=
  { site with registry := site.registry.register type }

/-- The options under which the filter of a request is compiled. -/
def optionsOf (site : Site) (request : ListingRequest) : CompileOptions :=
  { settings := site.settings, trash := request.trash, ignoreCap := request.ignoreCap }

variable {site : Site} {type : ResourceType} {request : ListingRequest} {access : Access}
  {term : Option Json} {text : String}

theorem listing_given (hterm : Term.ofJson (term.getD request.filter) = .ok (.text text)) :
    site.listing (.given type) request access term =
      (Clause.compile site.clock (site.registry.typeScope type (site.optionsOf request)) text).map
        (type.listing request access) := by
  simp only [listing, typeOf, clauseOf, hterm]
  rfl

/-- A resource type that is given by itself is compiled by all of its tables once it is registered.
Before, the sort templates are missing and the known values are the common ones, so the listing is
the same if no keyword of the filter is touched by these rules of the type. -/
theorem listing_given_register (hname : Text.lower type.name = type.name)
    (hnew : lookup? site.registry type.name = none)
    (hterm : Term.ofJson (term.getD request.filter) = .ok (.text text)) :
    (site.register type).listing (.given type) request access term =
        (Clause.compile site.clock (type.ownScope (site.optionsOf request)) text).map
          (type.listing request access) ∧
      site.listing (.given type) request access term =
        (Clause.compile site.clock (type.ownScope (site.optionsOf request)).withoutRules text).map
          (type.listing request access) ∧
      ((∀ keywords, split site.clock text site.settings.defaultSort = .ok keywords →
          ∀ keyword ∈ keywords,
            keyword.IsIndifferent (type.ownScope (site.optionsOf request))) →
        site.listing (.given type) request access term =
          (site.register type).listing (.given type) request access term) := by
  have hafter : (site.register type).listing (.given type) request access term =
      (Clause.compile site.clock (type.ownScope (site.optionsOf request)) text).map
        (type.listing request access) := by
    rw [listing_given hterm, register,
      Registry.typeScope_of_registered hname (Registry.lookup?_register _ _)]
    rfl
  have hbefore : site.listing (.given type) request access term =
      (Clause.compile site.clock (type.ownScope (site.optionsOf request)).withoutRules text).map
        (type.listing request access) := by
    rw [listing_given hterm, Registry.typeScope_of_notRegistered hname hnew]
  refine ⟨hafter, hbefore, fun hindifferent => ?_⟩
  rw [hafter, hbefore, Clause.compile_withoutRules hindifferent]

/-- The filter sorts by a column without a template, and a known value of the type holds its free
text. -/
theorem listing_given_register_widget :
    let type : ResourceType := .declare
      { name := "widget", table := "widgets", filterColumns := ["size", "label"]
        selectColumns := [.named "size" "\x7btable\x7d.size" .integer,
          .named "label" "\x7btable\x7d.label" .string]
        sorts := [("size", "widget_size (\x7bcolumn\x7d) \x7bdirection\x7d")]
        enums := [("size", ["Small", "Smaller"])] }
    let request : ListingRequest := { filter := .text "SMALL label=x sort=label" }
    Text.lower type.name = type.name ∧ lookup? Registry.builtin type.name = none ∧
      Term.ofJson request.filter = .ok (.text "SMALL label=x sort=label") ∧
      Site.listing {} (.given type) request {} none =
        (Site.register {} type).listing (.given type) request {} none := by
  intro type request
  have hname : Text.lower type.name = type.name := by decide +kernel
  have hnew : lookup? Registry.builtin type.name = none := by decide +kernel
  have hsplit : ((split (.whole 0) "SMALL label=x sort=label" (some "name")).map fun keywords =>
      decide (∀ keyword ∈ keywords,
        keyword.IsIndifferent (type.ownScope (Site.optionsOf {} request)))).toOption =
        some true := by
    decide +kernel
  obtain ⟨keywords, hkeywords, hindifferent⟩ := map_eq_ok_iff.1 (eq_ok_of_toOption hsplit)
  refine ⟨hname, hnew, rfl, ?_⟩
  refine (@listing_given_register {} type request {} none _ hname hnew rfl).2.2 ?_
  intro others hothers
  obtain rfl := Except.ok.inj (hkeywords.symm.trans hothers)
  exact of_decide_eq_true hindifferent

/-- A type with a template of its own for a column, and with known values of it. Registering it
changes the order of a listing, and the condition of another one. -/
theorem listing_given_differs :
    let type : ResourceType := .declare
      { name := "widget", table := "widgets", filterColumns := ["size"]
        selectColumns := [.named "size" "\x7btable\x7d.size" .integer]
        sorts := [("size", "widget_size (\x7bcolumn\x7d) \x7bdirection\x7d")]
        enums := [("size", ["Small"])] }
    let sorted : ListingRequest := { filter := .text "sort=size" }
    let searched : ListingRequest := { filter := .text "big" }
    Text.lower type.name = type.name ∧ Text.trim type.name = type.name ∧
      lookup? Registry.builtin type.name = none ∧
      ((Site.listing {} (.given type) sorted {} none).map (·.clause.order)).toOption =
        some "ORDER BY CAST(widgets.size AS NUMERIC) ASC" ∧
      (((Site.register {} type).listing (.given type) sorted {} none).map
        (·.clause.order)).toOption = some "ORDER BY widget_size (widgets.size) ASC" ∧
      ((Site.listing {} (.given type) searched {} none).map (·.clause.condition)).toOption =
        some (some "(CAST(widgets.size AS TEXT) ILIKE :fp_0)") ∧
      (((Site.register {} type).listing (.given type) searched {} none).map
        (·.clause.condition)).toOption = some none ∧
      Site.listing {} (.given type) sorted {} none ≠
        (Site.register {} type).listing (.given type) sorted {} none := by
  intro type sorted searched
  have hbefore : ((Site.listing {} (.given type) sorted {} none).map (·.clause.order)).toOption =
      some "ORDER BY CAST(widgets.size AS NUMERIC) ASC" := by
    decide +kernel
  have hafter : (((Site.register {} type).listing (.given type) sorted {} none).map
      (·.clause.order)).toOption = some "ORDER BY widget_size (widgets.size) ASC" := by
    decide +kernel
  refine ⟨by decide +kernel, by decide +kernel, by decide +kernel, hbefore, hafter,
    by decide +kernel, by decide +kernel, fun hsame => ?_⟩
  rw [← hsame, hbefore] at hafter
  exact absurd hafter (by decide +kernel)

end Site

end ListingFilter
