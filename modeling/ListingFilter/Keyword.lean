import ListingFilter.Json
import ListingFilter.Text.Case
/-!
# Keywords

A filter term is a list of keywords. A keyword is a word of free text, a logical operator, or a
value related to a column; control columns set the page, the order and the options of a report and
never take part in the condition.
-/

namespace ListingFilter

/-- The type of a column, or of the value of a keyword. -/
inductive ValueType
  | unknown
  | integer
  | double
  | string
  deriving DecidableEq, Repr, Inhabited

/-- Integers and doubles are compared as numbers. -/
def ValueType.isNumeric : ValueType → Bool
  | .integer | .double => true
  | _ => false

/-- How a column is compared with a value. -/
inductive Comparison
  | equal
  | approx
  | above
  | below
  | regexp
  deriving DecidableEq, Repr

/-- The character that stands between a column and its value. -/
def Comparison.symbol : Comparison → Char
  | .equal => '='
  | .approx => '~'
  | .above => '>'
  | .below => '<'
  | .regexp => ':'

/-- The comparison that a character stands for. -/
def Comparison.ofSymbol? (c : Char) : Option Comparison :=
  if c = '=' then some .equal
  else if c = '~' then some .approx
  else if c = '>' then some .above
  else if c = '<' then some .below
  else if c = ':' then some .regexp
  else none

/-- The relation of a keyword: none for operators and controls, free text is searched for, a column
is compared. -/
inductive Relation
  | none
  | approx
  | column (comparison : Comparison)
  deriving DecidableEq, Repr, Inhabited

/-- The relation as it is written in a term. -/
def Relation.symbol : Relation → String
  | .none => ""
  | .approx => "~"
  | .column comparison => comparison.symbol.toString

/-- One keyword of a filter term. -/
structure Keyword where
  /-- The text of the value. -/
  text : String
  /-- The column, in lower case. -/
  column : Option String := none
  relation : Relation := .none
  type : ValueType := .unknown
  /-- The value of an integer keyword, or of a control. -/
  integer : Int := 0
  /-- The value of a double keyword. -/
  double : Binary64 := .zero
  /-- The value was written between quotation marks. -/
  quoted : Bool := false
  /-- Free text that was written with a leading `=`. -/
  equal : Bool := false
  /-- Free text that was written with a leading `~`. -/
  approx : Bool := false
  deriving DecidableEq, Repr, Inhabited

/-- The logical operators of a filter term. -/
inductive Operator
  | and
  | or
  | not
  | regexp
  deriving DecidableEq, Repr

/-- The operator that a word stands for, in any case of letters. -/
def Operator.ofWord? (word : String) : Option Operator :=
  let word := Text.lower word
  if word = "and" then some .and
  else if word = "or" then some .or
  else if word = "not" then some .not
  else if word = "re" || word = "regexp" then some .regexp
  else none

namespace Keyword

/-- A keyword is an operator if it is an operator word without a column, a quotation or a leading
`=`. -/
def operator? (keyword : Keyword) : Option Operator :=
  if keyword.column.isSome || keyword.quoted || keyword.equal then none
  else Operator.ofWord? keyword.text

def isOperator (keyword : Keyword) : Bool := keyword.operator?.isSome

def isNumeric (keyword : Keyword) : Bool := keyword.type.isNumeric

/-- The keyword is on the column `name` or on its private form with a leading underscore, in any
case of letters. -/
def columnIs (keyword : Keyword) (name : String) : Bool :=
  match keyword.column with
  | none => false
  | some column =>
    let column := Text.lower column
    let name := Text.lower name
    column == name || column == "_" ++ name

end Keyword

/-- The columns that set the page, the order and the options of a report. -/
def controlColumns : List String :=
  ["first", "rows", "sort", "sort-reverse", "apply_overrides", "overrides", "notes",
    "result_hosts_only", "min_qod", "levels", "compliance_levels", "delta_states", "timezone"]

/-- The control columns of which only the first keyword counts. -/
def singleUseColumns : List String :=
  ["first", "rows", "apply_overrides", "delta_states", "levels", "min_qod", "notes", "overrides",
    "result_hosts_only", "timezone"]

/-- The control columns whose value is 0 or 1. -/
def switchColumns : List String := ["apply_overrides", "overrides", "notes", "result_hosts_only"]

end ListingFilter
