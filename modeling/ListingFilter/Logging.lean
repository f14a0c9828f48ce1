import ListingFilter.Environment
import ListingFilter.Fault
import ListingFilter.Text.Blank
/-!
# Logging

The root logger has a level and handlers; a message is written if its level is not below that of its
logger. Starting the log replaces the handlers, so that a second start adds nothing. Loggers known
to be chatty are held at warnings, unless everything is to be seen.
-/

namespace ListingFilter.Logging

/-- Greater levels are more severe. -/
abbrev Level := Int

def critical : Level := 50
def error : Level := 40
def warning : Level := 30
def info : Level := 20
def debug : Level := 10
def unset : Level := 0

/-- The names of the levels. -/
def levels : List (String × Level) :=
  [("CRITICAL", critical), ("FATAL", critical), ("ERROR", error), ("WARN", warning),
    ("WARNING", warning), ("INFO", info), ("DEBUG", debug), ("NOTSET", unset)]

/-- The capital of a letter, if it is one of ASCII. Outside ASCII these are the capitals of the
dotless i and of the long s. -/
def capital (c : Char) : Char :=
  if c.toNat = 0x131 then 'I'
  else if c.toNat = 0x17F then 'S'
  else c.toUpper

/-- The level under a name, in any case of letters and with blanks around it. -/
def levelNamed? (name : String) : Option Level :=
  lookup? levels (String.ofList ((Text.trim name).toList.map capital))

/-- What is asked for as a level. -/
inductive LevelChoice
  | number (level : Level)
  | named (name : String)
  /-- The environment decides. -/
  | unstated
  deriving DecidableEq, Repr

/-- The level that is meant. A name that is not one of a level stands for `info`. -/
def LevelChoice.resolve (environment : Environment) : LevelChoice → Level
  | .number level => level
  | .named name => (levelNamed? name).getD info
  | .unstated => (levelNamed? ((environment.get? "LOG_LEVEL").getD "INFO")).getD info

/-- Where messages go. -/
inductive Handler
  /-- A file of limited size, followed by a fresh one when it is full. -/
  | rollingFile (namePrefix : String)
  | console
  deriving DecidableEq, Repr

/-- The number of octets that the name of a file may have. -/
def longestFileName : Nat := 255

/-- The number of octets that follow the name of the application in the name of a log file: a
hyphen, a day, a time with milliseconds, and the ending. -/
def stampSize : Nat := 24

/-- The loggers that are chatty. -/
def chattyLoggers : List String := ["sqlalchemy.engine", "werkzeug", "urllib3"]

/-- How a log is started. -/
structure LogOptions where
  appName : String := "vulnmanage"
  level : LevelChoice := .unstated
  toConsole : Bool := true
  quiet : List String := chattyLoggers
  deriving DecidableEq, Repr

/-- The loggers of a process. -/
structure Loggers where
  rootLevel : Level := warning
  handlers : List Handler := []
  /-- The names of the log files made so far, without their time stamps. -/
  files : List String := []
  /-- The levels of loggers other than the root. -/
  levels : List (String × Level) := []
  deriving DecidableEq, Repr

namespace Loggers

/-- The names of the root logger. -/
def rootNames : List String := ["", "root"]

/-- The loggers with those named in `names` held at `level`. -/
def hold (names : List String) (level : Level) (loggers : Loggers) : Loggers :=
  { loggers with
    rootLevel := if names.any rootNames.contains then level else loggers.rootLevel
    levels := assignAll loggers.levels (names.map (·, level)) }

/-- The level of a logger. -/
def levelOf (loggers : Loggers) (name : String) : Level :=
  if rootNames.contains name then loggers.rootLevel else (lookup? loggers.levels name).getD unset

/-- Why no file can be made whose name begins with `name`, if none can. -/
def fileFault? (name : String) : Option Fault :=
  if name.toList.contains (Char.ofNat 0) then some .malformedFileName
  else if name.toList.contains '/' then some .noSuchFolder
  else if longestFileName < name.utf8ByteSize + stampSize then some .fileNameTooLong
  else none

/-- The loggers after the log was started. -/
def start (environment : Environment) (options : LogOptions) (loggers : Loggers) :
    Except Fault Loggers :=
  match fileFault? options.appName with
  | some fault => .error fault
  | none =>
    let level := options.level.resolve environment
    let started :=
      { loggers with
        rootLevel := level
        handlers := .rollingFile options.appName :: if options.toConsole then [.console] else []
        files :=
          if loggers.files.contains options.appName then loggers.files
          else loggers.files ++ [options.appName] }
    .ok (if debug < level then started.hold options.quiet warning else started)

/-- The loggers after the log was started `times` times. -/
def startRepeatedly (environment : Environment) (options : LogOptions) :
    Nat → Loggers → Except Fault Loggers
  | 0, loggers => .ok loggers
  | times + 1, loggers =>
    match loggers.start environment options with
    | .ok loggers => startRepeatedly environment options times loggers
    | .error fault => .error fault

end Loggers

end ListingFilter.Logging
