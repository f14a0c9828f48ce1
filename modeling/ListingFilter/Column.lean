import ListingFilter.Keyword
/-!
# Columns

A column of a resource type is an SQL expression, the name by which filters refer to it, and a type.
The private form of a name has a leading underscore; a column with a private name may be referred to
without the underscore. A column without a name is referred to by its expression.
-/

namespace ListingFilter

/-- One declared column. -/
structure Column where
  /-- The trusted SQL expression. -/
  select : String
  /-- The name in filters. -/
  filter : Option String := none
  type : ValueType := .unknown
  deriving DecidableEq, Repr, Inhabited

/-- The name of a type in messages. -/
def ValueType.label : ValueType → String
  | .unknown => "UNKNOWN"
  | .integer => "INTEGER"
  | .double => "DOUBLE"
  | .string => "STRING"

/-- `declared` is `name`, or its private form. -/
def namesColumn (declared name : String) : Bool := declared == name || declared == "_" ++ name

namespace Column

/-- The column `select` with the name `filter`. -/
def named (filter select : String) (type : ValueType) : Column := ⟨select, some filter, type⟩

/-- The column `select`, which has no name. -/
def unnamed (select : String) (type : ValueType) : Column := ⟨select, none, type⟩

/-- The column may be referred to as `name`. -/
def hasName (column : Column) (name : String) : Bool :=
  match column.filter with
  | none => false
  | some filter => filter != "" && namesColumn filter name

/-- The first column with the name `name`; if there is none, the first with that expression. -/
def findIn? (columns : List Column) (name : String) : Option Column :=
  (columns.find? (·.hasName name)).or (columns.find? (·.select == name))

/-- The column that `name` refers to, looked for among the selected columns first. -/
def resolve? (selectColumns whereColumns : List Column) (name : String) : Option Column :=
  if name = "" then none
  else (findIn? selectColumns name).or (findIn? whereColumns name)

/-- The column in a select list. -/
def selectItem (column : Column) : String :=
  match column.filter with
  | some filter => if filter = "" then column.select else column.select ++ " AS " ++ filter
  | none => column.select

/-- The select list of a statement. -/
def selectList (columns : List Column) : String :=
  if columns.isEmpty then "''" else String.intercalate ", " (columns.map selectItem)

/-- The declaration of a column as a text. -/
def declaration (column : Column) : String :=
  "ColumnDecl(select=" ++ Text.quoted column.select ++ ", filter=" ++
    (match column.filter with
      | none => "None"
      | some filter => Text.quoted filter) ++
    ", type=" ++ column.type.label ++ ")"

end Column

/-- `name` is one of the names that a filter may use. -/
def filterColumnApplies (filterColumns : List String) (name : String) : Bool :=
  name != "" && filterColumns.any fun declared => namesColumn declared name

/-- The resource types whose rows have a UUID in a table of their own, so that a column
`<type>_id` may be compared with a UUID. -/
def identifiedTypes : List String :=
  ["alert", "config", "cpe", "credential", "credential_store", "cve", "cert_bund_adv",
    "dfn_cert_adv", "filter", "group", "host", "os", "note", "nvt", "ovaldef", "override",
    "port_list", "permission", "report", "report_format", "result", "role", "scanner", "schedule",
    "tag", "target", "task", "ticket", "tls_certificate", "user"]

/-- `name` names one of these types, in any case of letters. -/
def isIdentifiedType (name : String) : Bool := identifiedTypes.contains (Text.lower name)

end ListingFilter
