import ListingFilter.Json
import ListingFilter.Text.Substring
/-!
# Words of a command line

A word of a command line is an option, a plain argument, the separator after which all words are
plain, or something that looks like an option but is none. Long options may be shortened as long as
only one option begins so, and their value may follow an equals sign.
-/

namespace ListingFilter.CommandLine

/-- The options. -/
inductive OptionName
  | help
  | type
  | trash
  | ignoreCap
  | clean
  | remove
  | count
  deriving DecidableEq, Repr

namespace OptionName

/-- The long options. -/
def long : List (String × OptionName) :=
  [("--help", .help), ("--type", .type), ("--trash", .trash), ("--ignore-cap", .ignoreCap),
    ("--clean", .clean), ("--remove", .remove), ("--count", .count)]

/-- The option takes a value. -/
def takesValue : OptionName → Bool
  | .type | .remove => true
  | _ => false

end OptionName

/-- A word, classified. -/
inductive Word
  | plain (text : String)
  | option (name : OptionName) (value : Option String)
  /-- It looks like an option. -/
  | unknown
  | separator
  deriving DecidableEq, Repr

namespace Word

/-- A minus and digits, with at most one point before the last of them; a line end may follow. -/
def isNegativeNumber (cs : List Char) : Bool :=
  let cs := if cs.getLast? = some '\n' then cs.dropLast else cs
  match cs with
  | '-' :: rest =>
    let whole := rest.takeWhile Text.isDigit
    match rest.drop whole.length with
    | [] => !whole.isEmpty
    | '.' :: part => !part.isEmpty && part.all Text.isDigit
    | _ => false
  | _ => false

/-- The long options that begin with `start`. -/
def longOptions (start : String) : List OptionName :=
  (OptionName.long.filter fun option => start.toList.isPrefixOf option.1.toList).map (·.2)

/-- A word that begins with two minus signs, cut at its first equals sign. Nothing if it could be
several options. -/
def ofLong? (text : String) : Option Word :=
  let (name, value) := Text.cutAt '=' text
  match lookup? OptionName.long text, lookup? OptionName.long name, longOptions name with
  | some found, _, _ => some (.option found none)
  | none, some found, _ => some (.option found value)
  | none, none, [found] => some (.option found value)
  | none, none, [] => some (if text.toList.contains ' ' then .plain text else .unknown)
  | none, none, _ => none

/-- The value that the letters after a minus sign and an `h` give to the option for help, which
takes none. Other letters than `h` stand for options of their own, but help comes first. -/
def helpValue? (letters : List Char) : Option String :=
  match letters.dropWhile (· == 'h') with
  | '=' :: value => some (String.ofList value)
  | '-' :: value => some (String.ofList ('-' :: value))
  | _ => none

/-- A word that begins with one minus sign. The only short option is the one for help. -/
def ofShort (text : String) : Word :=
  match text.toList with
  | '-' :: 'h' :: letters => .option .help (helpValue? letters)
  | cs => if isNegativeNumber cs || cs.contains ' ' then .plain text else .unknown

/-- A word before the separator. -/
def ofText? (text : String) : Option Word :=
  match text.toList with
  | ['-', '-'] => some .separator
  | '-' :: '-' :: _ => ofLong? text
  | '-' :: _ :: _ => some (ofShort text)
  | _ => some (.plain text)

/-- The words of a command line. Nothing if one of them could be several options. -/
def ofTexts? : List String → Option (List Word)
  | [] => some []
  | text :: rest =>
    match ofText? text with
    | none => none
    | some .separator => some (.separator :: rest.map .plain)
    | some word => (ofTexts? rest).map (word :: ·)

end Word

end ListingFilter.CommandLine
