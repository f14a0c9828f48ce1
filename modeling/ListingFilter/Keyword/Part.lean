import ListingFilter.Keyword.Typing
import ListingFilter.Keyword.Control
/-!
# The parts of a filter term

Blank space, tabs and line ends separate the parts of a term, except between quotation marks. A part
has a lead and a body. The lead is empty, a `=`, a `~`, or a column name with the symbol of a
comparison. The body is quoted if a quotation mark stands where the body begins; a mark that is
never closed quotes the rest of the term. Elsewhere a quotation mark is an ordinary character.
-/

namespace ListingFilter

/-- What stands before the body of a part. -/
inductive Lead
  | bare
  | exact
  | approx
  | column (name : String) (comparison : Comparison)
  deriving DecidableEq, Repr

/-- One part of a term. -/
structure Part where
  lead : Lead
  body : String
  quoted : Bool
  deriving DecidableEq, Repr

/-- The characters that separate parts. -/
def isSeparator (c : Char) : Bool := c == ' ' || c == '\t' || c == '\n' || c == '\r'

def isQuoteMark (c : Char) : Bool := c == '"' || c == '\''

/-- A letter or an underscore, and then letters, digits, underscores and hyphens, all of ASCII. -/
def isColumnName : List Char → Bool
  | [] => false
  | c :: rest => (c.isAlpha || c == '_') && rest.all fun c => c.isAlphanum || c == '_' || c == '-'

/-- Where the scanner of a term stands. The body read so far is kept in reverse. -/
inductive Scanner
  /-- Between two parts. -/
  | between
  /-- In a body that is not quoted. -/
  | inside (lead : Lead) (body : List Char)
  /-- In a body that ends at the next `mark`. -/
  | quoted (mark : Char) (lead : Lead) (body : List Char)
  deriving DecidableEq, Repr

namespace Scanner

/-- Reads one character; a part may be complete. -/
def step : Scanner → Char → Option Part × Scanner
  | .between, c =>
    if isSeparator c then (none, .between)
    else if isQuoteMark c then (none, .quoted c .bare [])
    else if c = '=' then (none, .inside .exact [])
    else if c = '~' then (none, .inside .approx [])
    else (none, .inside .bare [c])
  | .quoted mark lead body, c =>
    if c = mark then (some ⟨lead, String.ofList body.reverse, true⟩, .between)
    else (none, .quoted mark lead (c :: body))
  | .inside lead body, c =>
    if isSeparator c then (some ⟨lead, String.ofList body.reverse, false⟩, .between)
    else if isQuoteMark c && body.isEmpty && lead != .bare then (none, .quoted c lead [])
    else
      match lead, Comparison.ofSymbol? c with
      | .bare, some comparison =>
        if isColumnName body.reverse then
          (none, .inside (.column (String.ofList (body.reverse.map Char.toLower)) comparison) [])
        else (none, .inside .bare (c :: body))
      | lead, _ => (none, .inside lead (c :: body))

/-- The part that the end of the term completes. -/
def finish : Scanner → Option Part
  | .between => none
  | .inside lead body => some ⟨lead, String.ofList body.reverse, false⟩
  | .quoted _ lead body => some ⟨lead, String.ofList body.reverse, true⟩

/-- The parts that the characters complete, and the place where the scanner stands after them. -/
def run (scanner : Scanner) : List Char → List Part × Scanner
  | [] => ([], scanner)
  | c :: rest =>
    let (part, scanner) := scanner.step c
    let (parts, scanner) := scanner.run rest
    (part.toList ++ parts, scanner)

end Scanner

/-- The parts of a term, from left to right. -/
def Part.ofTerm (term : String) : List Part :=
  let (parts, scanner) := Scanner.between.run term.toList
  parts ++ scanner.finish.toList

/-- The keyword of a part without a column. It has no relation if it is an operator. -/
def Part.freeText (part : Part) : Keyword :=
  let keyword : Keyword :=
    { text := part.body, relation := .approx, type := .string, quoted := part.quoted,
      approx := part.lead == .approx }
  if keyword.isOperator then { keyword with relation := .none } else keyword

/-- A keyword with a typed value. -/
def Part.typed (part : Part) (column : Option String) (relation : Relation) (value : TypedValue) :
    Keyword :=
  { text := part.body
    column := column
    relation := relation
    type := value.type
    integer := value.integerValue
    double := value.doubleValue
    quoted := part.quoted
    equal := part.lead == .exact }

/-- The keyword that a part stands for. -/
def Part.keyword (clock : Clock) (part : Part) : Except Fault Keyword :=
  match part.lead with
  | .bare | .approx => .ok part.freeText
  | .exact =>
    match TypedValue.of clock none part.body with
    | .error fault => .error fault
    | .ok value => .ok (part.typed none .approx value)
  | .column name comparison =>
    match TypedValue.of clock (some name) part.body with
    | .error fault => .error fault
    | .ok value => (part.typed (some name) (.column comparison) value).legal

end ListingFilter
