import Mathlib.Data.List.ReduceOption
import ListingFilter.Database.Address
import ListingFilter.Proofs.SettingSources
/-!
# The sources of the parts of an address

Each part of the address of the database has four sources: its own variable, the variable that other
clients read, the configuration file and its default. The first text among them that is not empty is
preferred, whatever the sources of the other parts are. It is the value of the part unless the
variable of other clients is set to the empty text: then the default takes the place of what the
file says.
-/

namespace ListingFilter

namespace Environment

variable {environment : Environment} {name text : String}

end Environment

namespace Database

namespace Part

variable {environment environment' : Environment} {file file' : FileContent} {part : Part}

/-! ### Precedence -/

end Part

end Database

end ListingFilter
