import ListingFilter.Page
import ListingFilter.Text.Blank
/-!
# Controls of a filter

The page and the order that a filter asks for, and the options that it sets for a report, read off
its control keywords.
-/

namespace ListingFilter

/-- The first keyword on `column`. -/
def findColumn? (keywords : List Keyword) (column : String) : Option Keyword :=
  keywords.find? fun keyword => keyword.column == some column

/-- The integer of the first keyword on `column`. -/
def controlInteger (keywords : List Keyword) (column : String) (fallback : Int) : Int :=
  ((findColumn? keywords column).map (·.integerValue)).getD fallback

/-- The text of the first keyword on `column`. -/
def controlText? (keywords : List Keyword) (column : String) : Option String :=
  (findColumn? keywords column).map (·.text)

/-- The field that decides the order, and whether it ascends. -/
structure SortControl where
  field : String
  ascending : Bool
  deriving DecidableEq, Repr

/-- The order of the first sort keyword; by name if there is none or it names no field. -/
def SortControl.ofKeywords (keywords : List Keyword) : SortControl :=
  let found := keywords.find? fun keyword =>
    keyword.column == some "sort" || keyword.column == some "sort-reverse"
  match found with
  | none => ⟨defaultSortField, true⟩
  | some keyword =>
    ⟨if keyword.text = "" then defaultSortField else keyword.text, keyword.column == some "sort"⟩

/-- The page and the order of a listing. -/
structure FilterControls where
  /-- The number of rows before the page. -/
  first : Int
  /-- The number of rows of the page. -/
  max : Int
  sort : SortControl
  deriving DecidableEq, Repr

/-- The page and the order that a filter asks for. -/
def filterControls (clock : Clock) (settings : Settings) (ignoreCap : Bool) (term : String) :
    Except Fault FilterControls :=
  (split clock term none).map fun keywords =>
    { first := resolveFirst (controlInteger keywords "first" 1)
      max := resolveRows settings ignoreCap (controlInteger keywords "rows" rowsConfigured)
      sort := .ofKeywords keywords }

/-- The page and the order of a listing whose filter may be missing. A missing filter sets
nothing. -/
def listingControls (clock : Clock) (settings : Settings) (ignoreCap : Bool) :
    Option String → Except Fault FilterControls
  | none =>
    .ok
      { first := resolveFirst 1
        max := resolveRows settings ignoreCap rowsConfigured
        sort := .ofKeywords [] }
  | some term => filterControls clock settings ignoreCap term

/-- The number of rows of a report whose filter says nothing. -/
def reportRows : Int := 100

/-- The options of a report. -/
structure ReportControls where
  first : Int := 0
  max : Int := reportRows
  sort : SortControl := ⟨defaultSortField, true⟩
  resultHostsOnly : Int := 1
  minQod : Option String := none
  levels : Option String := none
  complianceLevels : Option String := none
  deltaStates : Option String := none
  /-- The free text of the filter. -/
  searchPhrase : String := ""
  searchPhraseExact : Bool := false
  notes : Int := 1
  overrides : Int := 1
  applyOverrides : Int := 1
  zone : Option String := none
  deriving DecidableEq, Repr

/-- The options that the keywords set. -/
def ReportControls.ofKeywords (settings : Settings) (keywords : List Keyword) : ReportControls :=
  let freeText := keywords.filter (·.column.isNone)
  let overrides := controlInteger keywords "overrides" 1
  { first := resolveFirst (controlInteger keywords "first" 1)
    max :=
      match findColumn? keywords "rows" with
      | none => reportRows
      | some keyword => rowsAsked settings keyword.integerValue
    sort := .ofKeywords keywords
    resultHostsOnly := controlInteger keywords "result_hosts_only" 1
    minQod := controlText? keywords "min_qod"
    levels := controlText? keywords "levels"
    complianceLevels := controlText? keywords "compliance_levels"
    deltaStates := controlText? keywords "delta_states"
    searchPhrase := Text.trimEnd (String.intercalate " " (freeText.map (·.text)))
    searchPhraseExact := freeText.any (·.equal)
    notes := controlInteger keywords "notes" 1
    overrides := overrides
    applyOverrides := controlInteger keywords "apply_overrides" overrides
    zone := controlText? keywords "timezone" }

/-- The options that a result filter sets for a report; without a filter they have their defaults.
The number of rows is not bounded. -/
def reportControls (clock : Clock) (settings : Settings) (term : Option String) :
    Except Fault ReportControls :=
  match term with
  | none => .ok {}
  | some term => (split clock term none).map (ReportControls.ofKeywords settings)

end ListingFilter
