import ListingFilter.ListedTerm
/-!
# Listing and counting statements

A listing selects one page of the rows of a resource type, a count counts all rows that the filter
matches. Both have the same condition: the filter, the restriction to an owner and the access
condition of the caller, each in parentheses, joined by AND.
-/

namespace ListingFilter

/-- A statement with the values of its parameters. -/
structure Statement where
  sql : String
  params : List (String × Json)
  deriving Inhabited, Repr

/-- What a listing is asked for. -/
structure ListingRequest where
  /-- The filter term. -/
  filter : Json := .null
  /-- The UUID of a stored filter. -/
  storedFilter : Json := .null
  trash : Bool := false
  ignoreCap : Bool := false
  ignorePagination : Bool := false
  deriving Inhabited, Repr

/-- What the caller adds to the condition: trusted SQL, and values for its parameters. -/
structure Access where
  condition : String := ""
  params : List (String × Json) := []
  deriving Inhabited, Repr

/-- A statement and the clause that it was made from. -/
structure Query where
  statement : Statement
  clause : Clause
  deriving Inhabited, Repr

/-- A filter term as it is given. -/
inductive Term
  | text (term : String)
  | listed (literals : List Literal)
  deriving Inhabited, Repr

/-- The term that a value is. One that is not given stands for an empty term. -/
def Term.ofJson (term : Json) : Except Fault Term :=
  match term with
  | .text term => .ok (.text term)
  | .array (item :: rest) =>
    match Literal.ofItems? .between (item :: rest) with
    | some literals => .ok (.listed literals)
    | none => .error .termNotText
  | term => if term.isGiven then .error .termNotText else .ok (.text "")

/-- The clause of a term. -/
def Term.clause (clock : Clock) (scope : Scope) : Term → Except Fault Clause
  | .text term => Clause.compile clock scope term
  | .listed literals => Clause.compileListed scope literals

/-- A term in its one form, without the keywords on the column `remove`. -/
def Term.clean (clock : Clock) (settings : Settings) (ignoreCap : Bool) (remove : Option String) :
    Term → Except Fault String
  | .text term => ListingFilter.clean clock settings ignoreCap remove (some term)
  | .listed literals => cleanListed settings ignoreCap remove literals

/-- The owner that restricts a listing: the one that the filter names, unless it is any. -/
def Clause.restrictingOwner? (clause : Clause) : Option String :=
  clause.owner.filter fun owner => owner != "" && Text.lower owner != "any"

/-- The parts of the condition on the rows of `table`. -/
def whereParts (table : String) (clause : Clause) (access : Access) : List String :=
  (clause.condition.map fun condition => s!"({condition})").toList ++
  (clause.restrictingOwner?.map fun _ =>
    s!"({table}.owner IN (SELECT id FROM users WHERE name = :owner_name))").toList ++
  (if access.condition = "" then [] else ["(" ++ access.condition ++ ")"])

/-- The condition on the rows of `table`, or an empty text. -/
def whereText (table : String) (clause : Clause) (access : Access) : String :=
  let parts := whereParts table clause access
  if parts.isEmpty then "" else " WHERE " ++ String.intercalate " AND " parts

/-- The values of the parameters of the condition. -/
def whereParams (clause : Clause) (access : Access) : List (String × Json) :=
  let params := assignAll clause.params access.params
  match clause.restrictingOwner? with
  | some owner => assign params "owner_name" (.text owner)
  | none => params

/-- The bounds of the page, as parameters. -/
def pageParams (ignorePagination : Bool) (clause : Clause) : List (String × Json) :=
  if ignorePagination then []
  else
    (if 0 < clause.max then [("limit", .integer clause.max)] else []) ++
    (if 0 < clause.first then [("offset", .integer clause.first)] else [])

/-- The bounds of the page in SQL. -/
def pageText (ignorePagination : Bool) (clause : Clause) : String :=
  if ignorePagination then ""
  else
    (if 0 < clause.max then " LIMIT :limit" else "") ++
    (if 0 < clause.first then " OFFSET :offset" else "")

/-- What follows the condition of a listing: the order and the page. -/
def tailText (ignorePagination : Bool) (clause : Clause) : String :=
  (if clause.order = "" then "" else " " ++ clause.order) ++ pageText ignorePagination clause

/-- What a listing and a count have in common: the table and the condition. -/
def fromText (table : String) (clause : Clause) (access : Access) : String :=
  s!" FROM {table}" ++ whereText table clause access

namespace ResourceType

/-- The statement that lists one page. -/
def listing (type : ResourceType) (request : ListingRequest) (access : Access) (clause : Clause) :
    Query :=
  { statement :=
      { sql := "SELECT " ++ Column.selectList (type.selected request.trash) ++
          fromText (type.tableName request.trash) clause access ++
          tailText request.ignorePagination clause
        params :=
          assignAll (whereParams clause access) (pageParams request.ignorePagination clause) }
    clause := clause }

/-- The statement that counts all rows. -/
def counting (type : ResourceType) (request : ListingRequest) (access : Access) (clause : Clause) :
    Query :=
  { statement :=
      { sql := "SELECT count(*)" ++ fromText (type.tableName request.trash) clause access
        params := whereParams clause access }
    clause := clause }

end ResourceType

/-- A resource type by name or by itself. -/
inductive ResourceRef
  | named (name : String)
  | given (type : ResourceType)
  deriving Inhabited, Repr

/-- Where a listing takes place: the clock, the registered types and the settings. -/
structure Site where
  clock : Clock := .whole 0
  registry : Registry := Registry.builtin
  settings : Settings := {}
  deriving Inhabited

namespace Site

/-- The resource type that is meant. -/
def typeOf (site : Site) : ResourceRef → Except Fault ResourceType
  | .named name => site.registry.find (some name)
  | .given type => .ok type

/-- The clause of a request: of `term` if it is given, else of the filter of the request. -/
def clauseOf (site : Site) (type : ResourceType) (request : ListingRequest) (term : Option Json) :
    Except Fault Clause :=
  match Term.ofJson (term.getD request.filter) with
  | .error fault => .error fault
  | .ok term =>
    term.clause site.clock (site.registry.typeScope type
      { settings := site.settings, trash := request.trash, ignoreCap := request.ignoreCap })

/-- The statement that lists one page of a resource type. -/
def listing (site : Site) (resource : ResourceRef) (request : ListingRequest) (access : Access)
    (term : Option Json) : Except Fault Query :=
  match site.typeOf resource with
  | .error fault => .error fault
  | .ok type => (site.clauseOf type request term).map (type.listing request access)

/-- The statement that counts the rows of a resource type. -/
def counting (site : Site) (resource : ResourceRef) (request : ListingRequest) (access : Access)
    (term : Option Json) : Except Fault Query :=
  match site.typeOf resource with
  | .error fault => .error fault
  | .ok type => (site.clauseOf type request term).map (type.counting request access)

end Site

end ListingFilter
