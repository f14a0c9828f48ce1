import ListingFilter.Cleaning
import ListingFilter.Clause
/-!
# Terms given as lists

A request may give its term as a list, which is read item by item as a text is read character by
character. Such a term can hold literals only: an item that is a quotation mark opens one, and the
items up to the same mark are its content, whatever they are. Outside the literals only blank items
and an item `~` in front of a literal make sense; any other list is no term.
-/

namespace ListingFilter

/-- A literal of a listed term. -/
structure Literal where
  items : List Json
  /-- It was written between quotation marks; otherwise it has no items. -/
  quoted : Bool := true
  /-- It was written with a leading `~`. -/
  approx : Bool := false
  deriving Inhabited, Repr

namespace Literal

/-- The reader of a listed term. -/
inductive Reader
  | between
  /-- After a `~`. -/
  | approximating
  /-- Inside a literal, up to `mark`. -/
  | inside (mark : String) (literal : Literal)
  deriving Inhabited, Repr

/-- A text separates literals if it stands in a row among the characters that separate words. -/
def isSeparator (text : String) : Bool := Text.contains " \t\n\r" text

/-- A text opens a literal if it stands in a row among the quotation marks. -/
def isMark (text : String) : Bool := Text.contains "\"'" text && text != ""

/-- Reads one item: the literals that it completes, and the reader after it. -/
def Reader.step : Reader → Json → Option (List Literal × Reader)
  | .between, .text item =>
    if isSeparator item then some ([], .between)
    else if isMark item then some ([], .inside item { items := [] })
    else if item = "~" then some ([], .approximating)
    else none
  | .approximating, .text item =>
    if isSeparator item then some ([{ items := [], quoted := false, approx := true }], .between)
    else if isMark item then some ([], .inside item { items := [], approx := true })
    else none
  | .inside mark literal, .text item =>
    if item = mark then some ([literal], .between)
    else some ([], .inside mark { literal with items := literal.items ++ [.text item] })
  | .inside mark literal, item =>
    some ([], .inside mark { literal with items := literal.items ++ [item] })
  | _, _ => none

/-- The literal that the end of the term completes. -/
def Reader.finish : Reader → List Literal
  | .between => []
  | .approximating => [{ items := [], quoted := false, approx := true }]
  | .inside _ literal => [literal]

/-- The literals of the items. -/
def ofItems? (reader : Reader) : List Json → Option (List Literal)
  | [] => some reader.finish
  | item :: rest =>
    match reader.step item with
    | none => none
    | some (found, reader) => (ofItems? reader rest).map (found ++ ·)

/-- The text of a literal. -/
def text (literal : Literal) : Except Fault String :=
  match (Json.array literal.items).shown? with
  | some text => .ok text
  | none => .error .numeralTooLong

/-- The keyword that a literal stands for. -/
def keyword (literal : Literal) : Except Fault Keyword :=
  literal.text.map fun text =>
    { text := text, relation := .approx, type := .string, quoted := literal.quoted,
      approx := literal.approx }

/-- The literal as it is written: in single quotation marks if a double one and no single one is
among its items. One without quotation marks cannot be written. -/
def written (literal : Literal) : Except Fault String :=
  let holds (mark : String) : Bool := literal.items.any fun
    | .text item => item == mark
    | _ => false
  if !literal.quoted then .error .termNotText
  else
    literal.text.map fun text =>
      let mark := if holds "\"" && !holds "'" then "'" else "\""
      (if literal.approx then "~" else "") ++ mark ++ text ++ mark

/-- Some column that literals are looked for in has known values, with which a literal cannot be
compared. -/
def meetsKnownValues (scope : Scope) : Bool :=
  scope.filterColumns.any fun name =>
    !isOutOfReach name && (knownValues? scope.enums name).isSome &&
      (Column.resolve? scope.selectColumns scope.whereColumns name).isSome

end Literal

/-- The clause of a listed term. -/
def Clause.compileListed (scope : Scope) (literals : List Literal) : Except Fault Clause :=
  if !literals.isEmpty && Literal.meetsKnownValues scope then .error .termNotText
  else
    match literals.mapM Literal.keyword with
    | .error fault => .error fault
    | .ok keywords =>
      Clause.ofKeywords scope (keywords ++ defaultKeywords scope.settings.defaultSort keywords)

/-- A listed term in its one form, without the keywords on the column `remove`. -/
def cleanListed (settings : Settings) (ignoreCap : Bool) (remove : Option String)
    (literals : List Literal) : Except Fault String :=
  match literals.mapM Literal.written,
      writeTerm settings ignoreCap remove (defaultKeywords settings.defaultSort []) with
  | .ok pieces, .ok rest =>
    .ok (Text.trim (String.intercalate " " (pieces ++ if rest = "" then [] else [rest])))
  | .error fault, _ | _, .error fault => .error fault

end ListingFilter
