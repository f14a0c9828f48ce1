import ListingFilter.ResourceType.Builtin
import ListingFilter.Text.Blank
import ListingFilter.Fault
/-!
# The registry of resource types

A registry holds resource types by name; a later registration under a name replaces the earlier one.
A look-up takes the name in any case of letters and with blanks around it.
-/

namespace ListingFilter

/-- Resource types by name. -/
abbrev Registry := List (String × ResourceType)

namespace Registry

/-- The registry of the built-in resource types. -/
def builtin : Registry := ResourceType.builtin.map fun type => (type.name, type)

/-- The registry with `type` under its name. -/
def register (registry : Registry) (type : ResourceType) : Registry :=
  assign registry type.name type

/-- The resource type that `name` refers to. -/
def find (registry : Registry) (name : Option String) : Except Fault ResourceType :=
  match lookup? registry (Text.lower (Text.trim (name.getD ""))) with
  | some type => .ok type
  | none => .error (.unknownResourceType name)

/-- The names of the registered types, in the order of their characters. -/
def names (registry : Registry) : List String :=
  (registry.map (·.1)).mergeSort fun a b => !(b < a)

end Registry

end ListingFilter
