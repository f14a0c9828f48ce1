import ListingFilter.Clause
/-!
# Unknown columns

The columns of a filter that name neither a control nor anything that a condition could refer to.
-/

namespace ListingFilter

/-- A keyword on `column` gives no condition because the column is not declared. -/
def isUnknownColumn (selectColumns whereColumns : List Column) (column : String) : Bool :=
  !controlColumns.contains column && !extractedColumns.contains column &&
    !tagColumns.contains column && (Condition.referencedType? column).isNone &&
    (Column.resolve? selectColumns whereColumns column).isNone

/-- The unknown ones among the columns, each once, in the order of their first occurrence. -/
def unknownAmong (selectColumns whereColumns : List Column) (columns : List String) : List String :=
  (columns.filter (isUnknownColumn selectColumns whereColumns)).eraseDups

/-- The unknown columns of a filter term. -/
def unknownColumns (clock : Clock) (selectColumns whereColumns : List Column) (term : String) :
    Except Fault (List String) :=
  (split clock term none).map fun keywords =>
    unknownAmong selectColumns whereColumns (keywords.filterMap (·.column))

end ListingFilter
