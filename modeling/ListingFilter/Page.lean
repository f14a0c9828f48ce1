import ListingFilter.Settings
/-!
# Pages

A listing shows one page of the rows that a filter matches. The number of rows of a page is what the
filter asks for, where -2 stands for the configured number and -1 for all rows, but no more than the
configured bound.
-/

namespace ListingFilter

/-- The number of rows that stands for the configured number. -/
def rowsConfigured : Int := -2

/-- The number of rows that stands for all rows. -/
def rowsUnlimited : Int := -1

/-- `rows`, or the configured bound if it is exceeded. Any negative number exceeds the bound. -/
def capRows (settings : Settings) (ignoreCap : Bool) (rows : Int) : Int :=
  let cap := settings.maxRowsPerPage
  if ignoreCap then rows
  else if cap ≠ 0 && (rows < 0 || cap < rows) then cap
  else rows

/-- The number of rows for the value of a `rows` keyword, before the bound. -/
def rowsAsked (settings : Settings) (rows : Int) : Int :=
  if rows = rowsConfigured then settings.rowsPerPage
  else if rows < 1 then rowsUnlimited
  else rows

/-- The number of rows of a page for the value of a `rows` keyword. -/
def resolveRows (settings : Settings) (ignoreCap : Bool) (rows : Int) : Int :=
  capRows settings ignoreCap (rowsAsked settings rows)

/-- The number of rows before the first one that the value of a `first` keyword asks for. -/
def resolveFirst (first : Int) : Int := max (first - 1) 0

end ListingFilter
