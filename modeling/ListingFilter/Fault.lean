import ListingFilter.Json
/-!
# Faults

What can go wrong, one constructor for each cause. `Fault.message` words the three causes that are
reported to the user of a listing.
-/

namespace ListingFilter

inductive Fault
  /-- A moment outside the years 1 to 9999, or on the first day of the calendar. -/
  | outsideCalendar
  /-- The year of a moment does not fit a machine integer. -/
  | unrepresentableMoment
  /-- The seconds or the year of a moment do not fit a machine word. -/
  | momentOverflow
  /-- The clock shows no number. -/
  | clockNotANumber
  /-- An integer has more digits than a numeral may have. -/
  | numeralTooLong
  /-- A text or value that should be an integer is none. -/
  | notAnInteger
  /-- A value of a kind that cannot be an integer. -/
  | notANumber
  /-- A sort template names a slot that does not exist. -/
  | unknownSlot (name : String)
  /-- A sort template holds a slot without a name. -/
  | namelessSlot
  /-- A sort template is not written as it should be. -/
  | malformedTemplate
  /-- A sort template asks for a member of a text. -/
  | noSuchMember
  /-- A sort template asks for a character that a text does not have. -/
  | positionOutside
  /-- A sort template asks for a character of a missing value, or by something else than its
  position. -/
  | notIndexable
  /-- A sort template lays out a missing value. -/
  | noLayout
  /-- No column tables exist for the resource type. -/
  | unknownResourceType (name : Option String)
  /-- A stored filter does not exist. -/
  | filterNotFound (id : Json)
  /-- A filter names columns that do not exist. -/
  | invalidFilterColumns (names : List String)
  /-- A filter term is neither a text nor a list of literals. -/
  | termNotText
  /-- The database refused a statement. -/
  | statementFailed
  /-- A value was given for a parameter that the statement does not have. -/
  | unusedParameter (name : String)
  /-- A value was given under a name that no value can be given under. -/
  | reservedParameter (name : String)
  /-- A value of a parameter cannot be written in a statement. -/
  | unwritableValue
  /-- A database URL that cannot be taken apart, or that names a server where there is none. -/
  | malformedUrl
  /-- The name of a driver has more than two parts. -/
  | malformedDriver (name : String)
  /-- A database URL names a driver that does not exist. -/
  | unknownDriver (name : String)
  /-- A database URL names a driver that is not installed. -/
  | missingDriver (name : String)
  /-- A database URL names something else than a driver. -/
  | notADriver (name : String)
  /-- A database URL names a plugin, and none is installed. -/
  | unknownPlugin (name : String)
  /-- Every one of several hosts in a database URL has more than one port. -/
  | malformedHosts
  /-- Ports stand both after the hosts of a database URL and by themselves. -/
  | portsGivenTwice
  /-- A port of one of several hosts is no integer. -/
  | malformedPort
  /-- There are not as many ports as hosts. -/
  | unmatchedPorts
  /-- The value of an option in a database URL cannot be read. -/
  | malformedOption (name : String)
  /-- An option in a database URL that may be given once is repeated. -/
  | repeatedOption (name : String)
  /-- A database in memory has no pool whose bounds could be set. -/
  | unboundedPool
  /-- The database cannot be reached. -/
  | databaseUnreachable
  /-- A request gives its query twice. -/
  | queryGivenTwice
  /-- A file is to be made in a folder that does not exist. -/
  | noSuchFolder
  /-- The name of a file holds a character that no file name may hold. -/
  | malformedFileName
  /-- The name of a file is too long. -/
  | fileNameTooLong
  deriving Inhabited, Repr

namespace Fault

/-- A name between quotation marks; a missing name is shown as such. -/
def quotedName : Option String → String
  | none => "None"
  | some name => Text.quoted name

/-- The wording of the causes that a user of a listing can mend. -/
def message? : Fault → Option String
  | .unknownResourceType name => some ("No column tables for resource type " ++ quotedName name)
  | .filterNotFound id => some ("Failed to find filter " ++ (id.shown?.getD ""))
  | .invalidFilterColumns names =>
    some ("Invalid filter column: " ++ String.intercalate ", " names)
  | _ => none

end Fault

end ListingFilter
