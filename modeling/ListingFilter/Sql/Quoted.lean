import ListingFilter.Fault
/-!
# String literals of SQL

A text stands between single quotation marks, with every such mark inside it doubled.
-/

namespace ListingFilter.Sql

/-- The characters with every single quotation mark doubled. -/
def doubleMarks (cs : List Char) : List Char :=
  cs.flatMap fun c => if c = '\'' then ['\'', '\''] else [c]

/-- The literal of a text. -/
def quote (text : String) : String :=
  String.ofList ('\'' :: doubleMarks text.toList ++ ['\''])

/-- The literal of the text of a value. -/
def quoteValue (value : Json) : Except Fault String :=
  match value.display? with
  | some text => .ok (quote text)
  | none => .error .numeralTooLong

end ListingFilter.Sql
