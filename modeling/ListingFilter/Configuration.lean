import ListingFilter.Json.Reader
import ListingFilter.Text.Utf8
/-!
# Configuration files

A configuration file holds a JSON object in UTF-8. A file that is absent, that cannot be read or
that holds anything else counts as one that holds the empty object, so reading one never fails.
-/

namespace ListingFilter

/-- The octets of a file, or nothing if there is no such file. -/
abbrev FileContent := Option (List Nat)

/-- The members of the object that a configuration holds. -/
abbrev Configuration := List (String × Json)

namespace Configuration

/-- The members of the object that the octets encode. -/
def ofOctets? (octets : List Nat) : Option Configuration :=
  match (Text.Utf8.decode? octets).bind (Json.read? Numeral.digitLimit) with
  | some (.object members) => some members
  | _ => none

/-- The members of the object that a file holds. -/
def ofFile (content : FileContent) : Configuration := (content.bind ofOctets?).getD []

end Configuration

end ListingFilter
