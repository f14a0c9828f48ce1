import ListingFilter.Column
import ListingFilter.Text.Substring
/-!
# Resource types

A resource type is a table of columns: those that a listing shows, those that only a filter may use,
the names that free text and sorting may use, and rules for sorting. The expressions are written for
any table: a slot stands for the name of the table, which is another one for resources in the trash.
-/

namespace ListingFilter

/-- The slots of expressions and sort templates. -/
def tableSlot : String := "\x7btable\x7d"

def columnSlot : String := "\x7bcolumn\x7d"

def directionSlot : String := "\x7bdirection\x7d"

/-- The levels of a threat. -/
def threatLevels : List String :=
  ["Critical", "High", "Medium", "Low", "Log", "None", "False Positive", "Error", "Debug"]

def trends : List String := ["up", "down", "more", "less", "same"]

/-- The states of a task. -/
def runStatuses : List String :=
  ["Container", "Delete Requested", "Ultimate Delete Requested", "Done", "New", "Requested",
    "Running", "Queued", "Stop Requested", "Stopped", "Interrupted", "Processing"]

/-- The columns that hold only a few known values. Free text is looked for in such a column only if
one of the values could match. -/
def commonEnums : List (String × List String) :=
  [("threat", threatLevels), ("trend", trends), ("status", runStatuses)]

/-- Severities are sorted as numbers, missing ones first. -/
def severitySort : String :=
  s!"CASE CAST ({columnSlot} AS text)" ++ " WHEN '' THEN '-Infinity'::real" ++
    s!" ELSE coalesce ({columnSlot}::real, '-Infinity'::real)" ++ s!" END {directionSlot}"

/-- Numbers and times are sorted as they are. -/
def nativeSort : String := s!"{columnSlot} {directionSlot}"

def addressSort : String := s!"order_inet ({columnSlot}) {directionSlot}"

def threatSort : String := s!"order_threat ({columnSlot}) {directionSlot}"

def severityColumns : List String :=
  ["severity", "new_severity", "original_severity", "cvss", "cvss_base", "max_cvss", "fp_per_host",
    "log_per_host", "low_per_host", "medium_per_host", "high_per_host", "critical_per_host"]

def nativeColumns : List String :=
  ["created", "modified", "updated", "date", "total", "result_hosts", "results", "critical", "high",
    "medium", "low", "log", "false_positive", "qod", "next_due"]

/-- The sort templates of every resource type. -/
def commonSorts : List (String × String) :=
  severityColumns.map (·, severitySort) ++ nativeColumns.map (·, nativeSort)

/-- Column tables and sort rules of one resource type. The expressions hold the slot of the
table. -/
structure ResourceType where
  name : String
  table : String
  trashTable : String
  filterColumns : List String
  selectColumns : List Column
  whereColumns : List Column
  /-- Sort templates by field. -/
  sorts : List (String × String)
  /-- Known values by column. -/
  enums : List (String × List String)
  deriving DecidableEq, Repr, Inhabited

namespace ResourceType

/-- What a resource type declares; the rest follows common rules. -/
structure Declaration where
  name : String
  table : String
  filterColumns : List String
  selectColumns : List Column
  whereColumns : List Column := []
  /-- Sort templates besides the common ones. -/
  sorts : List (String × String) := []
  /-- Known values; none declared stands for the common ones. -/
  enums : List (String × List String) := []
  /-- The table of resources in the trash; empty stands for the common name. -/
  trashTable : String := ""

/-- The resource type of a declaration. -/
def declare (declaration : Declaration) : ResourceType :=
  { name := declaration.name
    table := declaration.table
    trashTable :=
      if declaration.trashTable = "" then declaration.table ++ "_trash" else declaration.trashTable
    filterColumns := declaration.filterColumns
    selectColumns := declaration.selectColumns
    whereColumns := declaration.whereColumns
    sorts := assignAll commonSorts declaration.sorts
    enums := if declaration.enums.isEmpty then commonEnums else declaration.enums }

/-- The table that holds the resources, or those in the trash. -/
def tableName (type : ResourceType) (trash : Bool) : String :=
  if trash then type.trashTable else type.table

/-- The column with `table` in its slots. -/
def bindColumn (table : String) (column : Column) : Column :=
  { column with select := Text.substitute tableSlot table column.select }

/-- The columns that a listing shows. -/
def selected (type : ResourceType) (trash : Bool) : List Column :=
  type.selectColumns.map (bindColumn (type.tableName trash))

/-- The columns that only a filter may use. -/
def filtered (type : ResourceType) (trash : Bool) : List Column :=
  type.whereColumns.map (bindColumn (type.tableName trash))

/-- The resource type as a text. -/
def description (type : ResourceType) : String :=
  "ResourceType(name=" ++ Text.quoted type.name ++ ", table=" ++ Text.quoted type.table ++ ")"

end ResourceType

end ListingFilter
