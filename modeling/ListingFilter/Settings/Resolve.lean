import ListingFilter.Configuration
import ListingFilter.Environment
import ListingFilter.Fault
import ListingFilter.Flag
import ListingFilter.Settings
/-!
# Resolution of the settings

Each setting is taken from the first of its sources that has it: its variable in the environment,
the `filters` object of the configuration, the configuration itself. A value that cannot be used
gives the default, never the value of a later source.
-/

namespace ListingFilter.Settings

/-- The settings that an installation may configure. -/
inductive Key
  | rowsPerPage
  | maxRowsPerPage
  | strictColumns
  | tableOrder
  deriving DecidableEq, Repr

namespace Key

/-- The name of the setting in a configuration. -/
def name : Key → String
  | .rowsPerPage => "rows_per_page"
  | .maxRowsPerPage => "max_rows_per_page"
  | .strictColumns => "strict_filter_columns"
  | .tableOrder => "table_order_if_sort_not_specified"

/-- The environment variable of the setting. -/
def variableName : Key → String
  | .rowsPerPage => "VULNMANAGE_ROWS_PER_PAGE"
  | .maxRowsPerPage => "VULNMANAGE_MAX_ROWS_PER_PAGE"
  | .strictColumns => "VULNMANAGE_STRICT_FILTER_COLUMNS"
  | .tableOrder => "VULNMANAGE_TABLE_ORDER_IF_SORT_NOT_SPECIFIED"

end Key

/-- The value of a setting in a configuration; null if there is none. -/
def configured (configuration : Json) (key : Key) : Json :=
  let outer := (configuration.member? key.name).getD .null
  match configuration.member? "filters" with
  | some (.object members) => (lookup? members key.name).getD outer
  | _ => outer

/-- The value of a setting in its first source. -/
def stated (environment : Environment) (configuration : Json) (key : Key) : Json :=
  match environment.get? key.variableName with
  | some text => .text text
  | none => configured configuration key

/-- The integer that the text of a value holds, if it is at least `least`. -/
def integerOr (fallback least : Int) (value : Json) : Int :=
  match value.display?.bind fun text => Numeral.parse? (Text.trim text) with
  | some n => if n < least then fallback else n
  | none => fallback

/-- The flag that a value stands for. A number stands for whether it differs from zero. -/
def flagOr (fallback : Bool) : Json → Except Fault Bool
  | .null => .ok fallback
  | .bool value => .ok value
  | .integer value => .ok (value != 0)
  | .real value => .ok !value.isZero
  | value =>
    match value.display? with
    | some text => .ok ((Flag.ofText? text).getD fallback)
    | none => .error .numeralTooLong

/-- The settings under an environment and a configuration. -/
def resolve (environment : Environment) (configuration : Json) : Except Fault Settings :=
  let value := stated environment configuration
  let defaults : Settings := {}
  match flagOr defaults.strictColumns (value .strictColumns),
      flagOr defaults.tableOrder (value .tableOrder) with
  | .ok strictColumns, .ok tableOrder =>
    .ok {
      rowsPerPage := integerOr defaults.rowsPerPage 1 (value .rowsPerPage)
      maxRowsPerPage := integerOr defaults.maxRowsPerPage 0 (value .maxRowsPerPage)
      strictColumns := strictColumns
      tableOrder := tableOrder }
  | .error fault, _ | _, .error fault => .error fault

/-- The settings under an environment and the content of the configuration file. -/
def ofSources (environment : Environment) (file : FileContent) : Except Fault Settings :=
  resolve environment (.object (Configuration.ofFile file))

/-- The settings as data. -/
def toJson (settings : Settings) : Json :=
  .object [
    (Key.rowsPerPage.name, .integer settings.rowsPerPage),
    (Key.maxRowsPerPage.name, .integer settings.maxRowsPerPage),
    (Key.strictColumns.name, .bool settings.strictColumns),
    (Key.tableOrder.name, .bool settings.tableOrder),
    ("default_sort", (settings.defaultSort.map Json.text).getD .null)]

/-- What the service knows of its configuration: the file, and over it the resolved settings. -/
def application (configuration : Configuration) (settings : Settings) : Configuration :=
  assignAll configuration [
    ("FILTER_SETTINGS", settings.toJson),
    ("ROWS_PER_PAGE", .integer settings.rowsPerPage),
    ("MAX_ROWS_PER_PAGE", .integer settings.maxRowsPerPage)]

end ListingFilter.Settings
