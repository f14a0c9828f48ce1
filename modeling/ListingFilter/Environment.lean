import ListingFilter.Json
/-!
# Environments

The environment of a process: texts by name. A variable may be unset, set to the empty text, or set
to another text, and the three cases are kept apart.
-/

namespace ListingFilter

/-- The variables that are set. -/
abbrev Environment := List (String × String)

namespace Environment

/-- The text of a variable that is set. -/
def get? (environment : Environment) (name : String) : Option String := lookup? environment name

/-- The text of a variable that is set to a text that is not empty. -/
def nonempty? (environment : Environment) (name : String) : Option String :=
  (environment.get? name).filter fun text => text != ""

end Environment

end ListingFilter
