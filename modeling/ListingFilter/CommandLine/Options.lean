import ListingFilter.CommandLine.Word
/-!
# Options of a command line

A command line asks for one filter to be explained, or for it to be written in its one form, without
a column if one is named, or for its rows to be counted as well. These three are exclusive.
-/

namespace ListingFilter.CommandLine

/-- What a command line asks for. -/
inductive Mode
  | explain
  | clean
  | remove (column : String)
  | count
  deriving DecidableEq, Repr

/-- The options and the filter of a command line. -/
structure Options where
  filter : String := ""
  type : String := "task"
  trash : Bool := false
  ignoreCap : Bool := false
  mode : Mode := .explain
  deriving DecidableEq, Repr

/-- What is wrong with a command line. -/
inductive UsageError
  /-- A word could be several options. -/
  | ambiguousOption
  | missingValue (option : OptionName)
  | unexpectedValue (option : OptionName)
  | invalidChoice (value : String)
  /-- Two exclusive options. -/
  | conflict
  | unrecognized
  deriving DecidableEq, Repr

/-- What a command line leads to, if nothing is wrong with it. -/
inductive Request
  | help
  | run (options : Options)
  deriving DecidableEq, Repr

/-- What has been read of a command line. -/
structure Reading where
  options : Options := {}
  hasFilter : Bool := false
  /-- A word was found that has no place. -/
  hasExtra : Bool := false
  deriving DecidableEq, Repr

namespace Reading

/-- A plain word is the filter, if there is none yet. -/
def plain (text : String) (reading : Reading) : Reading :=
  if reading.hasFilter then { reading with hasExtra := true }
  else { reading with options := { reading.options with filter := text }, hasFilter := true }

/-- The mode is set to `mode`, unless an exclusive one is set. -/
def setMode (mode : Mode) (reading : Reading) : Except UsageError Reading :=
  let next := { reading with options := { reading.options with mode := mode } }
  match reading.options.mode, mode with
  | .explain, _ | .clean, .clean | .count, .count | .remove _, .remove _ => .ok next
  | _, _ => .error .conflict

/-- An option without a value. -/
def setFlag (reading : Reading) : OptionName → Except UsageError Reading
  | .trash => .ok { reading with options := { reading.options with trash := true } }
  | .ignoreCap => .ok { reading with options := { reading.options with ignoreCap := true } }
  | .clean => reading.setMode .clean
  | .count => reading.setMode .count
  | _ => .ok reading

/-- An option with its value. A type is one of `types`. -/
def setValue (types : List String) (reading : Reading) (option : OptionName) (value : String) :
    Except UsageError Reading :=
  match option with
  | .type =>
    if types.contains value then
      .ok { reading with options := { reading.options with type := value } }
    else .error (.invalidChoice value)
  | .remove => reading.setMode (.remove value)
  | _ => .error (.unexpectedValue option)

/-- The command line as a whole. -/
def finish (reading : Reading) : Except UsageError Request :=
  if reading.hasExtra then .error .unrecognized else .ok (.run reading.options)

/-- Plain words only. -/
def plains (words : List Word) (reading : Reading) : Reading :=
  words.foldl (fun reading word =>
    match word with
    | .plain text => reading.plain text
    | _ => reading) reading

/-- Reads the words from left to right. The separator may follow the filter directly, or stand where
the filter is due. -/
def words (types : List String) (reading : Reading) : List Word → Except UsageError Request
  | [] => reading.finish
  | .plain text :: .separator :: rest => ((reading.plain text).plains rest).finish
  | .plain text :: rest => (reading.plain text).words types rest
  | .separator :: rest =>
    if reading.hasFilter then .error .unrecognized else (reading.plains rest).finish
  | .unknown :: rest => words types { reading with hasExtra := true } rest
  | .option .help none :: _ => .ok .help
  | .option name (some value) :: rest =>
    match reading.setValue types name value with
    | .ok reading => reading.words types rest
    | .error error => .error error
  | .option name none :: rest =>
    if name.takesValue then
      match rest with
      | .plain value :: rest =>
        match reading.setValue types name value with
        | .ok reading => reading.words types rest
        | .error error => .error error
      | _ => .error (.missingValue name)
    else
      match reading.setFlag name with
      | .ok reading => reading.words types rest
      | .error error => .error error

end Reading

/-- What the words of a command line ask for, where `types` are the names of the resource types. -/
def parse (types : List String) (arguments : List String) : Except UsageError Request :=
  match Word.ofTexts? arguments with
  | none => .error .ambiguousOption
  | some words => Reading.words types {} words

end ListingFilter.CommandLine
