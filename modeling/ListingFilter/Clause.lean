import ListingFilter.Clause.FreeText
import ListingFilter.Clause.Order
import ListingFilter.Page
import ListingFilter.ResourceType.Registry
/-!
# Clauses

A filter term is compiled into a clause: the text of a condition with its parameters, the order of
the rows and the page. The keywords are taken from left to right. Conditions are joined by OR, or by
AND if the operator `and` stands between the term and the one before it; `not` negates the next term
only, and `re` makes the next free text a pattern. A term that gives no condition uses up the
operators before it.
-/

namespace ListingFilter

/-- A clause: what a filter says about the rows of a listing. -/
structure Clause where
  /-- The condition on the rows, if there is one. -/
  condition : Option String
  /-- The order clause, or an empty text. -/
  order : String
  /-- The number of rows before the page. -/
  first : Int
  /-- The number of rows of the page; -1 stands for all. -/
  max : Int
  /-- The permissions that the filter names. -/
  permissions : List String
  /-- The owner that the filter names first. -/
  owner : Option String
  /-- The parameters of the condition. -/
  params : List (String × Json)
  deriving Inhabited, Repr

/-- What stands between two conditions. -/
inductive Junction
  | and
  | or
  deriving DecidableEq, Repr

/-- The words in front of a condition: a junction unless it is the first one, and a negation. -/
structure Join where
  junction : Option Junction
  negated : Bool
  deriving DecidableEq, Repr

/-- The words in SQL. -/
def Join.text (join : Join) : String :=
  match join.junction, join.negated with
  | none, false => ""
  | none, true => "NOT "
  | some .and, false => " AND "
  | some .and, true => " AND NOT "
  | some .or, false => " OR "
  | some .or, true => " OR NOT "

/-- The operators met since the last term. -/
structure Span where
  conjoined : Bool := false
  negated : Bool := false
  regexp : Bool := false
  deriving DecidableEq, Repr

/-- The span with one more operator. The operator `or` says nothing new. -/
def Span.add (span : Span) : Operator → Span
  | .and => { span with conjoined := true }
  | .or => span
  | .not => { span with negated := true }
  | .regexp => { span with regexp := true }

/-- The words in front of a condition after `span`. -/
def Span.join (span : Span) (isFirst negated : Bool) : Join :=
  ⟨if isFirst then none else some (if span.conjoined then .and else .or), negated⟩

/-- What a filter is compiled against. -/
structure Scope extends SortScope where
  /-- The name of the resource type, in lower case. -/
  resourceType : String
  /-- Known values by column. -/
  enums : List (String × List String)
  settings : Settings
  /-- The bound of the number of rows does not count. -/
  ignoreCap : Bool

/-- A clause in the making. -/
structure Draft where
  bindings : Sql.Bindings
  /-- The conditions so far, each with the words in front of it. -/
  terms : List (Join × String) := []
  span : Span := {}
  order : List String := []
  first : Int := 0
  max : Int
  permissions : List String := []
  owner : Option String := none

namespace Draft

/-- The condition of a keyword on `column`. -/
def columnCondition (scope : Scope) (column : String) (keyword : Keyword) :
    Sql.Binding (Option String) :=
  let table := nonempty scope.table
  if tagColumns.contains column then
    match table with
    | some table => Condition.onTagTerm table scope.resourceType column keyword
    | none => return none
  else
    match Condition.referencedType? column, table with
    | some type, some table => some <$> Condition.onReference table type keyword
    | _, _ =>
      match Column.resolve? scope.selectColumns scope.whereColumns column with
      | some found => Condition.onColumn found.select found.type keyword
      | none => return none

/-- The condition of a term, and whether the words in front of it negate it. Free text is negated
inside its condition. -/
def condition (scope : Scope) (span : Span) (keyword : Keyword) :
    Sql.Binding (Option String × Bool) :=
  match keyword.column with
  | none => do
    let probes ← freeTextProbes scope.selectColumns scope.whereColumns scope.enums keyword
      span.regexp scope.filterColumns
    return (freeTextCondition span.negated probes, false)
  | some column => do
    let condition ← columnCondition scope column keyword
    return (condition, span.negated)

/-- The draft after a term. -/
def addTerm (scope : Scope) (draft : Draft) (keyword : Keyword) : Except Fault Draft :=
  match condition scope draft.span keyword draft.bindings with
  | .error fault => .error fault
  | .ok ((condition?, negated), bindings) =>
    let terms :=
      match condition? with
      | none => draft.terms
      | some condition =>
        draft.terms ++ [(draft.span.join draft.terms.isEmpty negated, condition)]
    .ok { draft with bindings := bindings, terms := terms, span := {} }

/-- The draft after a keyword on the control column `column`. -/
def addControl (scope : Scope) (draft : Draft) (column : String) (keyword : Keyword) :
    Except Fault Draft :=
  if column = "sort" || column = "sort-reverse" then
    match orderTerm scope.toSortScope draft.order.isEmpty (Text.trim keyword.text)
        (sortDirection column) with
    | .error fault => .error fault
    | .ok term => .ok { draft with order := draft.order ++ term.toList }
  else if column = "first" then .ok { draft with first := resolveFirst keyword.integerValue }
  else if column = "rows" then
    .ok { draft with max := resolveRows scope.settings scope.ignoreCap keyword.integerValue }
  else .ok draft

/-- The draft after one more keyword. -/
def add (scope : Scope) (draft : Draft) (keyword : Keyword) : Except Fault Draft :=
  match keyword.operator?, keyword.column with
  | some operator, _ => .ok { draft with span := draft.span.add operator }
  | none, none => draft.addTerm scope keyword
  | none, some column =>
    if controlColumns.contains column then draft.addControl scope column keyword
    else if column = "permission" then
      .ok { draft with permissions := draft.permissions ++ [keyword.text] }
    else if column = "owner" then .ok { draft with owner := draft.owner.or (some keyword.text) }
    else draft.addTerm scope keyword

/-- The draft of an empty filter. -/
def empty (scope : Scope) : Draft :=
  { bindings := { stem := "fp" }
    max := resolveRows scope.settings scope.ignoreCap rowsConfigured }

/-- The text of the conditions, with the words between them. -/
def conditionText (terms : List (Join × String)) : String :=
  String.join (terms.map fun term => term.1.text ++ term.2)

/-- The clause that the draft has become. -/
def clause (draft : Draft) : Clause :=
  { condition := if draft.terms.isEmpty then none else some (conditionText draft.terms)
    order := orderClause draft.order
    first := draft.first
    max := draft.max
    permissions := draft.permissions
    owner := draft.owner
    params := draft.bindings.entries }

end Draft

/-- The clause of the keywords. -/
def Clause.ofKeywords (scope : Scope) (keywords : List Keyword) : Except Fault Clause :=
  (keywords.foldlM (Draft.add scope) (Draft.empty scope)).map Draft.clause

/-- The clause of a filter term. -/
def Clause.compile (clock : Clock) (scope : Scope) (term : String) : Except Fault Clause :=
  match split clock term scope.settings.defaultSort with
  | .error fault => .error fault
  | .ok keywords => Clause.ofKeywords scope keywords

/-- Column tables for one compilation. -/
structure ColumnTables where
  filterColumns : List String
  selectColumns : List Column
  whereColumns : List Column
  deriving Inhabited, Repr

/-- The column tables of a resource type. -/
def ResourceType.columnTables (type : ResourceType) (trash : Bool) : ColumnTables :=
  ⟨type.filterColumns, type.selected trash, type.filtered trash⟩

/-- Options of one compilation. -/
structure CompileOptions where
  settings : Settings := {}
  trash : Bool := false
  ignoreCap : Bool := false
  deriving Inhabited, Repr

namespace Registry

/-- The table of the resources of a type, if it is registered or identified. -/
def defaultTable (registry : Registry) (resourceType : String) (trash : Bool) : Option String :=
  match lookup? registry resourceType with
  | some type => some (type.tableName trash)
  | none =>
    if isIdentifiedType resourceType then
      some (resourceType ++ (if trash then "s_trash" else "s"))
    else none

/-- What a filter on resources called `name` is compiled against: the sort templates and the known
values of the type registered under the name, and the columns that are given. -/
def scope (registry : Registry) (name : String) (tables : ColumnTables) (table : Option String)
    (options : CompileOptions) : Scope :=
  let resourceType := Text.lower name
  let registered := lookup? registry resourceType
  { filterColumns := tables.filterColumns
    selectColumns := tables.selectColumns
    whereColumns := tables.whereColumns
    sorts := (registered.map (·.sorts)).getD []
    table := table.or (registry.defaultTable resourceType options.trash)
    resourceType := resourceType
    enums := (registered.map (·.enums)).getD commonEnums
    settings := options.settings
    ignoreCap := options.ignoreCap }

/-- What a filter on resources of a type is compiled against. -/
def typeScope (registry : Registry) (type : ResourceType) (options : CompileOptions) : Scope :=
  registry.scope type.name (type.columnTables options.trash) (some (type.tableName options.trash))
    options

/-- The clause of a filter on resources of a type. -/
def compileType (registry : Registry) (clock : Clock) (type : ResourceType)
    (options : CompileOptions) (term : String) : Except Fault Clause :=
  Clause.compile clock (registry.typeScope type options) term

/-- The clause of a filter on resources of the type registered under `name`. -/
def compile (registry : Registry) (clock : Clock) (name : Option String)
    (options : CompileOptions) (term : String) : Except Fault Clause :=
  match registry.find name with
  | .error fault => .error fault
  | .ok type => registry.compileType clock type options term

end Registry

end ListingFilter
