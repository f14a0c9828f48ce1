import ListingFilter.ResourceType
import ListingFilter.Sql.Bindings
/-!
# Conditions on a column

A keyword on a column becomes a condition in parentheses. A column named after a type of identified
resources refers to the resource with a UUID; the tag columns refer to the tags of the resource; any
other column is compared with the value of the keyword, as numbers if both are numeric and as texts
otherwise. The value of a keyword stands in the condition as a parameter or as a number.
-/

namespace ListingFilter

open Sql (Binding literal containsPattern)

/-- The columns of terms that restrict the listing without a condition of their own. -/
def extractedColumns : List String := ["permission", "owner"]

/-- The columns of terms about tags. -/
def tagColumns : List String := ["tag", "tag_id"]

/-- The number that a numeric keyword stands for. -/
def Keyword.number (keyword : Keyword) : Json :=
  if keyword.type = .integer then .integer keyword.integer else .real keyword.double

/-- The operator that compares numbers or texts. -/
def Comparison.operator? : Comparison → Option String
  | .equal => some "="
  | .above => some ">"
  | .below => some "<"
  | .approx => none
  | .regexp => none

namespace Condition

/-- The expression `expr` compared with the value of `keyword`. -/
def onColumn (expr : String) (type : ValueType) (keyword : Keyword) :
    Binding (Option String) := do
  match keyword.relation with
  | .column .approx =>
    let pattern ← containsPattern keyword.text
    return some s!"(CAST({expr} AS TEXT) ILIKE {pattern})"
  | .column .regexp =>
    let pattern ← literal (.text keyword.text)
    return some s!"(CAST({expr} AS TEXT) ~ {pattern})"
  | .column comparison =>
    match comparison.operator? with
    | none => return none
    | some operator =>
      if keyword.isNumeric && type.isNumeric then
        let number ← literal keyword.number
        return some s!"(CAST({expr} AS NUMERIC) {operator} {number})"
      else
        let value ← literal (.text keyword.text)
        if comparison = .equal && keyword.text = "" then
          return some s!"(CAST({expr} AS TEXT) {operator} {value} OR {expr} IS NULL)"
        else
          return some s!"(CAST({expr} AS TEXT) {operator} {value})"
  | _ => return none

/-- The columns that end like a reference but hold a text of their own. -/
def ownIdColumns : List String := ["nvt_id", "result_id"]

/-- The type of the resources that a column named `<type>_id` refers to. -/
def referencedType? (column : String) : Option String :=
  let cs := column.toList
  let stem := String.ofList (cs.take (cs.length - 3))
  if "_id".toList.isSuffixOf cs && !ownIdColumns.contains column && isIdentifiedType stem then
    some stem
  else none

/-- The resource refers to the one with the UUID, or to none. -/
def onReference (table type : String) (keyword : Keyword) : Binding String := do
  let reference := s!"{table}.{type}"
  if keyword.text = "" then return s!"({reference} IS NULL OR {reference} = 0)"
  else
    let uuid ← literal (.text keyword.text)
    return s!"((SELECT id FROM {type}s WHERE {type}s.uuid = {uuid}) = {reference}" ++
      s!" OR {reference} IS NULL OR {reference} = 0)"

/-- The resource has a tag that matches `tag`. -/
def hasTag (table resourceType tag : String) : Binding String := do
  let type ← literal (.text resourceType)
  return "EXISTS (SELECT * FROM tag_resources" ++
    s!" WHERE tag_resources.resource_uuid = {table}.uuid" ++
    s!" AND tag_resources.resource_type = {type}" ++ s!" AND tag_resources.tag = {tag})"

/-- A column of tags matches `text`; there is no condition for an order. -/
def onTagColumn (column : String) (comparison : Comparison) (text : String) :
    Binding (Option String) := do
  match comparison with
  | .equal =>
    let value ← literal (.text text)
    return some s!"{column} = {value}"
  | .approx =>
    let pattern ← containsPattern text
    return some s!"{column} ILIKE {pattern}"
  | .regexp =>
    let pattern ← literal (.text text)
    return some s!"{column} ~ {pattern}"
  | _ => return none

/-- The resource has an active tag whose name matches; after an equals sign in the text stands what
the value of the tag has to match. -/
def onTag (table resourceType : String) (comparison : Comparison) (text : String) :
    Binding (Option String) := do
  let (name, value?) := Text.cutAt '=' text
  match ← onTagColumn "tags.name" comparison name with
  | none => return none
  | some nameCondition =>
    let valueCondition ←
      match value? with
      | none => pure ""
      | some value => do
        let condition ← onTagColumn "tags.value" comparison value
        pure (" AND " ++ condition.getD "")
    let exists_ ← hasTag table resourceType "tags.id"
    return some ("(EXISTS (SELECT * FROM tags" ++ s!" WHERE {nameCondition}{valueCondition}" ++
      " AND tags.active != 0" ++ s!" AND {exists_}))")

/-- The resource has the tag with the UUID. -/
def onTagId (table resourceType : String) (comparison : Comparison) (text : String) :
    Binding (Option String) := do
  if comparison = .equal then
    let uuid ← literal (.text text)
    let condition ← hasTag table resourceType s!"(SELECT id FROM tags WHERE tags.uuid = {uuid})"
    return some s!"({condition})"
  else return none

/-- A term about the tags of the resource. -/
def onTagTerm (table resourceType column : String) (keyword : Keyword) :
    Binding (Option String) :=
  match keyword.relation with
  | .column comparison =>
    if column = "tag_id" then onTagId table resourceType comparison keyword.text
    else onTag table resourceType comparison keyword.text
  | _ => return none

end Condition

end ListingFilter
