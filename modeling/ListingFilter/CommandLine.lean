import ListingFilter.Cleaning
import ListingFilter.CommandLine.Options
import ListingFilter.Database.Engine
import ListingFilter.Explain
import ListingFilter.Settings.Resolve
/-!
# The command line

The program explains a filter or writes it in its one form. It exits with 0 if it did what it was
asked for, and with 2, without output, if the command line makes no sense.
-/

namespace ListingFilter.CommandLine

/-- The exit code and the output of the program. -/
structure Reply where
  exitCode : Nat
  output : String
  deriving DecidableEq, Repr

/-- How the program is used. -/
def usage : String :=
  "usage: listing-filter [-h] [--type TYPE] [--trash] [--ignore-cap]\n" ++
  "                      [--clean | --remove COLUMN | --count] [filter]\n"

/-- What the program reads besides its command line. -/
structure Surroundings where
  clock : Clock
  environment : Environment
  /-- The configuration file. -/
  settingsFile : FileContent
  /-- The file on the database. -/
  databaseFile : FileContent

/-- The rows of a filter are counted by the database. What is said of the database must make sense,
but no database is within reach. -/
def counted (surroundings : Surroundings) : Except Fault String := do
  let _ ← Database.Blueprint.ofSources surroundings.environment surroundings.databaseFile
  .error .databaseUnreachable

/-- The output for a command line that makes sense. -/
def output (surroundings : Surroundings) (site : Site) (options : Options) :
    Except Fault String :=
  let cleaned (column : Option String) : Except Fault String :=
    (clean site.clock site.settings options.ignoreCap column (some options.filter)).map (· ++ "\n")
  let explained : Except Fault String :=
    Explain.text site options.type options.filter options.trash options.ignoreCap
  match options.mode with
  | .clean => cleaned none
  | .remove column => if column = "" then explained else cleaned (some column)
  | .explain => explained
  | .count => do
    let text ← explained
    return text ++ (← counted surroundings)

/-- The reply to a command line. -/
def reply (surroundings : Surroundings) (arguments : List String) : Except Fault Reply :=
  let registry := Registry.builtin
  match parse registry.names arguments with
  | .error _ => .ok ⟨2, ""⟩
  | .ok .help => .ok ⟨0, usage⟩
  | .ok (.run options) => do
    let settings ← Settings.ofSources surroundings.environment surroundings.settingsFile
    let site : Site := { clock := surroundings.clock, registry := registry, settings := settings }
    let text ← output surroundings site options
    return ⟨0, text⟩

end ListingFilter.CommandLine
