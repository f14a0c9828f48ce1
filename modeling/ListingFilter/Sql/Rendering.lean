import ListingFilter.Sql.Quoted
import ListingFilter.Text.Word
/-!
# Statements with their values

A statement is shown with its values in place of its parameters. A parameter is a colon and word
characters, where the colon does not follow a colon, a word character or a backslash, and no colon
follows the name. Quotation marks in the statement are not looked at. A backslash before a colon
keeps the colon from being read so, and is left out.
-/

namespace ListingFilter.Sql

open Text (isWord)

/-- After `c`, a colon may begin a name of characters for which `inName` holds. -/
def mayPrecede (inName : Char → Bool) (c : Option Char) : Bool :=
  match c with
  | none => true
  | some c => !(c == ':' || c == '\\' || inName c)

/-- The name of a parameter at the start of the characters after a colon: all word characters there.
Where a colon follows them nothing is declared: not the name, and not a shorter one either, such as
the `ab` of `:abc:` that the pattern `:(\w+)(?!:)` finds once it gives a character back. References
are not shortened (`referenceLength`), so no text would differ: only a value that is given under the
shorter name is refused here. -/
def declaredName? (cs : List Char) : Option (List Char) :=
  let run := cs.takeWhile isWord
  if run.isEmpty || (cs.drop run.length).head? = some ':' then none else some run

/-- The names of the parameters of a statement, in order, `before` being the last character read. -/
def declaredNames (before : Option Char) : List Char → List (List Char)
  | [] => []
  | c :: rest =>
    let later := declaredNames (some c) rest
    if c = ':' && mayPrecede isWord before then
      match declaredName? rest with
      | some name => name :: later
      | none => later
    else later

/-- A character that a reference to a parameter may hold. -/
def isReferenceChar (c : Char) : Bool := isWord c || c == '$'

/-- The number of characters of a reference at the start of the characters after a colon. No colon
follows a reference. -/
def referenceLength (cs : List Char) : Option Nat :=
  let run := cs.takeWhile isReferenceChar
  if (cs.drop run.length).head? = some ':' then none else some run.length

/-- What stands for a reference that begins with the colon `c`, `rest` being the characters after
it, with the number of characters of `rest` that belong to the reference. -/
def replacement? (value? : String → Option (List Char)) (before : Option Char) (c : Char)
    (rest : List Char) : Option (List Char × Nat) :=
  if c = ':' && mayPrecede isReferenceChar before then
    match referenceLength rest with
    | none | some 0 => none
    | some length => (value? (String.ofList (rest.take length))).map (·, length)
  else none

/-- The characters with the text of `value?` for every reference that has one. The first argument
counts the characters of a reference still to be left out. -/
def inlineChars (value? : String → Option (List Char)) :
    Nat → Option Char → List Char → List Char
  | _, _, [] => []
  | skip + 1, _, c :: rest => inlineChars value? skip (some c) rest
  | 0, before, c :: rest =>
    match replacement? value? before c rest with
    | some (value, length) => value ++ inlineChars value? length (some c) rest
    | none => c :: inlineChars value? 0 (some c) rest

/-- The characters without the backslashes before references. -/
def dropEscapes : List Char → List Char
  | '\\' :: ':' :: rest =>
    if (referenceLength rest).isSome then ':' :: dropEscapes rest
    else '\\' :: dropEscapes (':' :: rest)
  | c :: rest => c :: dropEscapes rest
  | [] => []

/-- A value in a statement. Only single values can be written in one. -/
def valueText : Json → Except Fault String
  | .null => .ok "NULL"
  | .bool value => .ok (if value then "true" else "false")
  | .text value => .ok (quote value)
  | .array _ | .object _ => .error .unwritableValue
  | value =>
    match value.display? with
    | some text => .ok text
    | none => .error .unwritableValue

/-- The texts of the values of parameters. -/
def valueTexts (params : List (String × Json)) : Except Fault (List (String × String)) :=
  params.mapM fun param => (valueText param.2).map (param.1, ·)

/-- Names under which no value can be given, whatever the statement. -/
def reservedNames : List String := ["self", "fn"]

/-- Nothing, where every value is given under a name that can be used and that is one of `names`. -/
def checkGiven (names : List String) (params : List (String × Json)) : Except Fault Unit :=
  match params.find? fun param => reservedNames.contains param.1 with
  | some param => .error (.reservedParameter param.1)
  | none =>
    match params.find? fun param => !names.contains param.1 with
    | some param => .error (.unusedParameter param.1)
    | none => .ok ()

/-- The statement with its values; a parameter without a value is null. -/
def render (sql : String) (params : List (String × Json)) : Except Fault String := do
  let names := (declaredNames none sql.toList).map String.ofList
  checkGiven names params
  let values ← valueTexts params
  let value? (name : String) : Option (List Char) :=
    if names.contains name then some ((lookup? values name).getD "NULL").toList else none
  return String.ofList (dropEscapes (inlineChars value? 0 none sql.toList))

end ListingFilter.Sql
