import ListingFilter.Binary64.Shortest
import ListingFilter.Text.Quoted
/-!
# Data values

Parameters of statements, rows, settings files and request bodies hold JSON data. The members of an
object keep the order in which they were written.
-/

namespace ListingFilter

/-- A JSON value. Integers have any size; other numbers are 64-bit. -/
inductive Json
  | null
  | bool (value : Bool)
  | integer (value : Int)
  | real (value : Binary64)
  | text (value : String)
  | array (items : List Json)
  | object (members : List (String × Json))
  deriving Inhabited, Repr

/-- The entry under `key` of an association list. -/
def lookup? {α : Type} (entries : List (String × α)) (key : String) : Option α :=
  (entries.find? fun entry => entry.1 == key).map (·.2)

/-- `entries` with `value` under `key`: in the place of the old entry, or at the end. -/
def assign {α : Type} (entries : List (String × α)) (key : String) (value : α) :
    List (String × α) :=
  match entries with
  | [] => [(key, value)]
  | entry :: rest =>
    if entry.1 == key then (key, value) :: rest else entry :: assign rest key value

/-- `entries` with every entry of `updates` assigned in turn. -/
def assignAll {α : Type} (entries updates : List (String × α)) : List (String × α) :=
  updates.foldl (fun entries update => assign entries update.1 update.2) entries

namespace Json

/-- Whether a value counts as given: not null, false, zero or empty. -/
def isGiven : Json → Bool
  | .null => false
  | .bool value => value
  | .integer value => value != 0
  | .real value => !value.isZero
  | .text value => value != ""
  | .array items => !items.isEmpty
  | .object members => !members.isEmpty

/-- The member of an object under `key`. -/
def member? (key : String) : Json → Option Json
  | .object members => lookup? members key
  | _ => none

mutual

/-- The text of a value inside another, where texts are quoted. An integer too long for a numeral
has none. -/
def shown? : Json → Option String
  | .null => some "None"
  | .bool value => some (if value then "True" else "False")
  | .integer value => Numeral.write? value
  | .real value => some value.text
  | .text value => some (Text.quoted value)
  | .array items => (shownItems? items).map fun items => "[" ++ String.intercalate ", " items ++ "]"
  | .object members =>
    (shownMembers? members).map fun members =>
      "\x7b" ++ String.intercalate ", " members ++ "\x7d"

/-- The texts of the items of an array. -/
def shownItems? : List Json → Option (List String)
  | [] => some []
  | item :: rest =>
    match shown? item, shownItems? rest with
    | some item, some rest => some (item :: rest)
    | _, _ => none

/-- The texts of the members of an object, each with its name. -/
def shownMembers? : List (String × Json) → Option (List String)
  | [] => some []
  | (name, value) :: rest =>
    match shown? value, shownMembers? rest with
    | some value, some rest => some ((Text.quoted name ++ ": " ++ value) :: rest)
    | _, _ => none

end

/-- The text of a value by itself: a text stands for itself. -/
def display? : Json → Option String
  | .text value => some value
  | value => shown? value

end Json

end ListingFilter
