import ListingFilter.Controls
/-!
# Cleaning

A filter is cleaned by writing its keywords back in one form: the lead of each part, then its value,
in quotation marks if it was quoted, with single spaces between the parts. The number of rows is
written out, so that a stored filter does not depend on the settings.
-/

namespace ListingFilter

/-- A text in quotation marks: in single ones if it holds double ones only. -/
def quoteBody (text : String) : String :=
  let cs := text.toList
  if cs.contains '"' && !cs.contains '\'' then "'" ++ text ++ "'" else "\"" ++ text ++ "\""

namespace Keyword

/-- The value as it is written in a term. -/
def writtenBody (keyword : Keyword) : String :=
  if keyword.quoted then quoteBody keyword.text else keyword.text

/-- What is written before the value. A control has no relation and is written with `=`. -/
def writtenLead (keyword : Keyword) : String :=
  match keyword.column with
  | none => if keyword.equal then "=" else if keyword.approx then "~" else ""
  | some column =>
    column ++ (if keyword.relation = .none then "=" else keyword.relation.symbol)

/-- The number of rows that a `rows` keyword stands for. -/
def writtenRows (settings : Settings) (ignoreCap : Bool) (keyword : Keyword) : Int :=
  capRows settings ignoreCap
    (if keyword.text = "-2" then settings.rowsPerPage else keyword.integerValue)

/-- The keyword as it is written in a term. -/
def written (settings : Settings) (ignoreCap : Bool) (keyword : Keyword) : Except Fault String :=
  if keyword.column = some "rows" then
    match Numeral.write? (keyword.writtenRows settings ignoreCap) with
    | some rows => .ok (keyword.writtenLead ++ rows)
    | none => .error .numeralTooLong
  else .ok (keyword.writtenLead ++ keyword.writtenBody)

end Keyword

/-- The keyword is on the column to be removed, if one is named. -/
def isRemoved (remove : Option String) (keyword : Keyword) : Bool :=
  match remove with
  | none => false
  | some column => column != "" && keyword.columnIs column

/-- The text of the keywords that remain. -/
def writeTerm (settings : Settings) (ignoreCap : Bool) (remove : Option String)
    (keywords : List Keyword) : Except Fault String :=
  (((keywords.filter fun keyword => !isRemoved remove keyword).mapM
    (Keyword.written settings ignoreCap))).map fun pieces =>
      Text.trim (String.intercalate " " pieces)

/-- A filter term in its one form, without the keywords on the column `remove`. A missing term
gives an empty text, without the defaults. -/
def clean (clock : Clock) (settings : Settings) (ignoreCap : Bool) (remove : Option String) :
    Option String → Except Fault String
  | none => .ok ""
  | some term =>
    match split clock term settings.defaultSort with
    | .error fault => .error fault
    | .ok keywords => writeTerm settings ignoreCap remove keywords

end ListingFilter
