import ListingFilter.Keyword.Split
/-!
# Settings

What an installation configures about filters.
-/

namespace ListingFilter

/-- The settings that are consulted while filters are compiled. -/
structure Settings where
  /-- The number of rows of a page whose filter names none. -/
  rowsPerPage : Int := 10
  /-- The greatest number of rows of a page; 0 stands for no bound. -/
  maxRowsPerPage : Int := 1000
  /-- Filters that name unknown columns are rejected. -/
  strictColumns : Bool := false
  /-- A filter without a sort field leaves the rows in the order of the table. -/
  tableOrder : Bool := false
  deriving DecidableEq, Repr, Inhabited

/-- The sort field of a filter that names none. -/
def Settings.defaultSort (settings : Settings) : Option String :=
  if settings.tableOrder then none else some defaultSortField

end ListingFilter
