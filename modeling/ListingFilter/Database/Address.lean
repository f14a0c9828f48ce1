import ListingFilter.Configuration
import ListingFilter.Environment
import ListingFilter.Text.Percent
/-!
# The address of the database

The database is named by a URL. Unless the environment gives the whole URL, it is put together from
five parts, each of which is looked up by itself: in its variable, in the variable that other
database clients read, in the configuration file, and last in its default. An empty text never
counts as given, but a client variable that is set to the empty text keeps the file from being
asked.
-/

namespace ListingFilter.Database

/-- The parts of an address. -/
inductive Part
  | user
  | password
  | name
  | host
  | port
  deriving DecidableEq, Repr

namespace Part

/-- The variable of the part, which is also its name in the configuration file. -/
def variableName : Part → String
  | .user => "DB_USER"
  | .password => "DB_PASSWORD"
  | .name => "DB_NAME"
  | .host => "DB_HOST"
  | .port => "DB_PORT"

/-- The variable of the part that other database clients read. -/
def clientVariableName : Part → String
  | .user => "PGUSER"
  | .password => "PGPASSWORD"
  | .name => "PGDATABASE"
  | .host => "PGHOST"
  | .port => "PGPORT"

/-- The part if it is given nowhere. By default there is no password. -/
def default : Part → String
  | .user => "gvm"
  | .password => ""
  | .name => "gvmd"
  | .host => "127.0.0.1"
  | .port => "5432"

/-- What the sources say of a part. -/
def stated? (environment : Environment) (file : Configuration) (part : Part) : Option String :=
  match environment.nonempty? part.variableName with
  | some text => some text
  | none =>
    match environment.get? part.clientVariableName with
    | some text => some text
    | none => (lookup? file part.variableName).bind Json.display?

/-- The value of a part. -/
def value (environment : Environment) (file : Configuration) (part : Part) : String :=
  match part.stated? environment file with
  | some text => if text = "" then part.default else text
  | none => part.default

end Part

/-- The user, and the encoded password if there is one. -/
def credentials (user password : String) : String :=
  if password = "" then user else user ++ ":" ++ Text.Percent.encodeForm password

/-- The URL with the given parts. -/
def urlOf (part : Part → String) : String :=
  "postgresql+psycopg://" ++ credentials (part .user) (part .password) ++ "@" ++
    part .host ++ ":" ++ part .port ++ "/" ++ part .name

/-- The URL of the database. -/
def urlText (environment : Environment) (file : FileContent) : String :=
  match environment.nonempty? "DATABASE_URL" with
  | some url => url
  | none => urlOf (Part.value environment (Configuration.ofFile file))

end ListingFilter.Database
