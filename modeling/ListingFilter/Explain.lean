import ListingFilter.Clause.Unknown
import ListingFilter.Query
import ListingFilter.Sql.Rendering
/-!
# Explanations

An explanation shows what becomes of a filter: the parts of its clause, the columns that it names in
vain, and the statement that lists its first page, with the values in place of the parameters.
-/

namespace ListingFilter.Explain

/-- The text of a value. -/
def shown (value : Json) : Except Fault String :=
  match value.shown? with
  | some text => .ok text
  | none => .error .numeralTooLong

/-- One line of an explanation. -/
def line (label text : String) : String := label ++ text ++ "\n"

/-- The lines on the parts of a clause. -/
def clauseLines (clause : Clause) : Except Fault String := do
  let params ← shown (.object clause.params)
  let first ← shown (.integer clause.first)
  let max ← shown (.integer clause.max)
  let permissions ← shown (.array (clause.permissions.map .text))
  return line "where:       " (clause.condition.getD "None") ++
    line "params:      " params ++
    line "order:       " clause.order ++
    line "first/max:   " (first ++ " / " ++ max) ++
    (if clause.permissions.isEmpty then "" else line "permissions: " permissions) ++
    (clause.owner.map (line "owner:       ")).getD ""

/-- The line on the columns that a filter names in vain, if there are any. -/
def unknownLine (names : List String) : String :=
  if names.isEmpty then "" else line "unknown:     " (String.intercalate ", " names)

/-- The explanation of a term for a resource type. -/
def text (site : Site) (type term : String) (trash ignoreCap : Bool) : Except Fault String := do
  let found ← site.registry.find (some type)
  let request : ListingRequest :=
    { filter := .text term, trash := trash, ignoreCap := ignoreCap }
  let query ← site.listing (.given found) request {} none
  let parts ← clauseLines query.clause
  let unknown ← unknownColumns site.clock (found.selected trash) (found.filtered trash) term
  let statement ← Sql.render query.statement.sql query.statement.params
  return line "type:        " (found.name ++ " (" ++ found.tableName trash ++ ")") ++
    line "filter:      " (Text.quoted term) ++ parts ++ unknownLine unknown ++ "\n" ++
    line "SQL:" "" ++ line "" statement

end ListingFilter.Explain
