import ListingFilter.CommandLine
import Std.Time.DateTime.Timestamp
/-!
# The program

Reads the clock, the variables of the settings and of the database and the two files on them, and
writes the reply to the command line.
-/

open ListingFilter

/-- The variables that the settings are read from. -/
def settingVariables : List String :=
  [Settings.Key.rowsPerPage, .maxRowsPerPage, .strictColumns, .tableOrder].map (·.variableName)

/-- The variables that the database and its engine are read from. -/
def databaseVariables : List String :=
  let parts : List Database.Part := [.user, .password, .name, .host, .port]
  "DATABASE_URL" :: parts.map (·.variableName) ++ parts.map (·.clientVariableName) ++
    Database.EngineOptions.variableNames

/-- The variables among `names` that are set. -/
def readEnvironment (names : List String) : IO Environment :=
  names.filterMapM fun name => do
    return (← IO.getEnv name).map fun text => (name, text)

/-- The octets of a file, or nothing if it cannot be read. -/
def readFile (path : String) : IO FileContent := do
  try
    let octets ← IO.FS.readBinFile path
    return some (octets.toList.map (·.toNat))
  catch _ => return none

/-- The present moment, in whole seconds. -/
def readClock : IO Clock := do
  let now ← Std.Time.Timestamp.now
  return .whole now.toSecondsSinceUnixEpoch.val

def main (arguments : List String) : IO UInt32 := do
  let surroundings : CommandLine.Surroundings := {
    clock := ← readClock
    environment := ← readEnvironment (settingVariables ++ databaseVariables)
    settingsFile := ← readFile "config/appconfig.json"
    databaseFile := ← readFile "config/db.json" }
  match CommandLine.reply surroundings arguments with
  | .ok reply =>
    IO.print reply.output
    if reply.exitCode != 0 then IO.eprint CommandLine.usage
    return reply.exitCode.toUInt32
  | .error fault =>
    IO.eprintln ((fault.message?).getD "The filter cannot be explained.")
    return 1
