import ListingFilter.ResourceType
import ListingFilter.Sql.Template
import ListingFilter.Text.Blank
/-!
# The order of the rows

The first sort keyword that gives a term decides the order, by the template of its field if there is
one whose slots can be filled; later ones break ties by the plain expression. A field that is no
filter column, or that has no expression, gives no term.
-/

namespace ListingFilter

/-- What sort keywords refer to. -/
structure SortScope where
  filterColumns : List String
  selectColumns : List Column
  whereColumns : List Column
  /-- Sort templates by field. -/
  sorts : List (String × String)
  /-- The table of the rows, if it is known. -/
  table : Option String

/-- The direction of a sort keyword. -/
def sortDirection (column : String) : String := if column = "sort" then "ASC" else "DESC"

/-- A text, unless it is missing or empty. -/
def nonempty (text : Option String) : Option String := text.filter (· != "")

/-- The template of `field`, filled, if it is not empty and what its slots need is there. -/
def templateTerm? (scope : SortScope) (field direction : String) (expr : Option String) :
    Option (Except Fault String) :=
  match nonempty (lookup? scope.sorts field) with
  | none => none
  | some template =>
    let ready (slot : String) (value : Option String) : Bool :=
      (nonempty value).isSome || !Text.contains template slot
    if ready columnSlot expr && ready tableSlot scope.table then
      some (Sql.fill
        [("column", expr), ("table", scope.table), ("direction", some direction)] template)
    else none

/-- The term of a column without a template. -/
def plainTerm (column : Column) (direction : String) : String :=
  let expr := column.select
  if column.type.isNumeric then s!"CAST({expr} AS NUMERIC) {direction}"
  else s!"lower(CAST({expr} AS TEXT)) {direction}"

/-- The term of a sort keyword on `field`; `primary` if no term stands before it. -/
def orderTerm (scope : SortScope) (primary : Bool) (field direction : String) :
    Except Fault (Option String) :=
  if !filterColumnApplies scope.filterColumns field then .ok none
  else
    let column? := Column.resolve? scope.selectColumns scope.whereColumns field
    if primary then
      match templateTerm? scope field direction (column?.map (·.select)) with
      | some term => term.map some
      | none => .ok (column?.map (plainTerm · direction))
    else .ok (column?.map fun column => column.select ++ " " ++ direction)

/-- The order clause of the terms; empty if there are none. -/
def orderClause (terms : List String) : String :=
  if terms.isEmpty then "" else "ORDER BY " ++ String.intercalate ", " terms

end ListingFilter
