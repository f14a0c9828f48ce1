import ListingFilter.Fault
import ListingFilter.Keyword
/-!
# Legal values of control keywords

A control keyword holds the legal integer nearest in spirit to what was written: the first row is at
least 1; the number of rows is positive, or -1 for all of them, or -2 for the configured number; a
quality of detection lies between 0 and 100; a switch is 0 or 1. A value that had to be changed is
written anew.
-/

namespace ListingFilter

open Text (isDigit isBlank)

/-- The greatest and the least integer read from the start of a text. -/
def greatestLeading : Int := 2147483647

def leastLeading : Int := -2147483648

/-- The integer at the start of `text`, after blanks, within the bounds; 0 if there is none. -/
def leadingInteger (text : String) : Int :=
  let (negative, rest) := Numeral.splitSign (text.toList.dropWhile isBlank)
  let ds := rest.takeWhile isDigit
  if ds.isEmpty then 0
  else if Numeral.digitLimit < ds.length then (if negative then leastLeading else greatestLeading)
  else max leastLeading (min greatestLeading (Numeral.signed negative (Numeral.value ds)))

namespace Keyword

/-- The integer of a keyword: its value if it is a number, else the integer at the start of its
text. -/
def integerValue (keyword : Keyword) : Int :=
  if keyword.isNumeric then keyword.integer else leadingInteger keyword.text

/-- The legal value of the control column `column` for the value `value`, if it differs. -/
def correction? (column : String) (value : Int) : Option Int :=
  if column = "first" then (if value ≤ 0 then some 1 else none)
  else if column = "rows" then
    if value = 0 then some 1 else if value < -2 then some (-1) else none
  else if column = "min_qod" then
    if value < 0 then some 0 else if 100 < value then some 100 else none
  else if value = 0 || value = 1 then none
  else some 1

/-- The control columns that hold an integer. -/
def integerControls : List String := ["first", "rows", "min_qod"] ++ switchColumns

/-- The keyword with the legal value of its control column. It is an integer keyword if its text is
the decimal text of the value. -/
def legal (keyword : Keyword) : Except Fault Keyword :=
  match keyword.column with
  | none => .ok keyword
  | some name =>
    let column := Text.lower name
    if !controlColumns.contains column then .ok keyword
    else if !integerControls.contains column then
      .ok { keyword with column := some column, relation := .none }
    else
      let written :=
        if keyword.type = .integer then keyword.integer else leadingInteger keyword.text
      let (value, text) :=
        match correction? column written with
        | some value => (value, toString value)
        | none => (written, keyword.text)
      match Numeral.write? value with
      | none => .error .numeralTooLong
      | some decimal =>
        .ok { keyword with
          column := some column
          text := text
          integer := value
          type := if text = decimal then .integer else keyword.type
          relation := .none }

end Keyword

end ListingFilter
