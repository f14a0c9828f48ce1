import ListingFilter.Binary64.Reader
import ListingFilter.Database.Driver
import ListingFilter.Database.Url
import ListingFilter.Text.Case
/-!
# What a URL asks of its driver

The query of a database URL holds options of its driver. They are read when an engine is built, long
before anything is connected, so that a URL that its driver cannot use is refused at once.
-/

namespace ListingFilter.Database

namespace Url

/-- The values of the query under a name. -/
def values (url : Url) (name : String) : List String :=
  (url.query.filter fun field => field.1 == name).map (·.2)

/-- The URL without the options that name plugins. -/
def withoutPlugins (url : Url) : Url :=
  { url with query := url.query.filter fun field => field.1 != "plugins" }

/-! ## Servers -/

/-- The parts of a text between the occurrences of `c`. -/
def parts (c : Char) (text : String) : List String :=
  (Text.splitOn c text.toList).map String.ofList

/-- The servers that a query names: their number, and the texts of their ports if any are given. -/
structure Servers where
  count : Nat
  ports : Option (List String)
  deriving DecidableEq, Repr

/-- The texts of the ports that the query gives under their own name. -/
def portTexts (url : Url) : Option (List String) :=
  match url.values "port" with
  | [] => none
  | [texts] => some (parts ',' texts)
  | texts => some texts

/-- The text of the port after a host name, if the text is a host name, a colon and digits. A line
end may follow. -/
def portAfterName? (text : String) : Option String :=
  let isNameChar (c : Char) : Bool := c.isAlphanum || c == '-' || c == '.'
  let cs := text.toList
  let cs := if cs.getLast? = some '\n' then cs.dropLast else cs
  match cs.dropWhile isNameChar with
  | ':' :: digits => if digits.all Text.isDigit then some (String.ofList digits) else none
  | _ => none

/-- The server that a text names, with its port after a colon. -/
def serverWithPort (text : String) : List String :=
  match parts ':' text with
  | [name] => [name, ""]
  | names => names

/-- The servers that the query names: under one name with commas between them, each with its port if
there is only one and no ports are given, or under several names, each with its port. -/
def servers (url : Url) : Except Fault Servers :=
  match url.values "host" with
  | [] => .ok ⟨0, url.portTexts⟩
  | [text] =>
    match parts ',' text, url.portTexts with
    | [name], none => .ok ⟨1, (portAfterName? name).map fun port => [port]⟩
    | names, ports => .ok ⟨names.length, ports⟩
  | texts =>
    let servers := texts.map serverWithPort
    if servers.all fun server => 2 < server.length then .error .malformedHosts
    else if url.portTexts.isSome then .error .portsGivenTwice
    else .ok ⟨texts.length, some (servers.map fun server => (server.drop 1).headD "")⟩

/-- The text of a port is empty or an integer. -/
def isPort (text : String) : Bool := text == "" || (Numeral.parse? text).isSome

/-- Every server has its port, if any port is given. A single port may stand alone. -/
def Servers.check (servers : Servers) : Except Fault Unit :=
  match servers.ports with
  | none => .ok ()
  | some ports =>
    if !ports.all isPort then .error .malformedPort
    else if ports.length = servers.count || (servers.count = 0 && ports.length = 1) then .ok ()
    else .error .unmatchedPorts

/-! ## Files -/

/-- The words that set or clear an option. -/
def optionWords : List String :=
  ["true", "yes", "on", "y", "t", "1", "false", "no", "off", "n", "f", "0"]

/-- An option that is set or cleared, if it is given once. -/
def checkFlag (url : Url) (name : String) : Except Fault Unit :=
  match url.values name with
  | [text] =>
    if optionWords.contains (Text.lower (Text.trim text)) then .ok ()
    else .error (.malformedOption name)
  | _ => .ok ()

/-- An option whose value `reads` may be given once. -/
def checkValue (reads : String → Bool) (url : Url) (name : String) : Except Fault Unit :=
  match url.values name with
  | [] => .ok ()
  | [text] => if reads text then .ok () else .error (.malformedOption name)
  | _ => .error (.repeatedOption name)

/-- The options of a database in a file, in the order in which they are read. -/
def checkFileOptions (url : Url) : Except Fault Unit := do
  let isInteger (text : String) : Bool := (Numeral.parse? text).isSome
  let isNumber (text : String) : Bool := (Binary64.parse? text).isSome
  url.checkFlag "uri"
  url.checkValue isNumber "timeout"
  url.checkValue isInteger "detect_types"
  url.checkFlag "check_same_thread"
  url.checkValue isInteger "cached_statements"

/-- The URL names a database on no server. -/
def isLocal (url : Url) : Bool :=
  (url.user.getD "").isEmpty && (url.password.getD "").isEmpty && url.host.isNone &&
    (url.port.getD 0) == 0

/-- The URL names a database that lives in memory. -/
def inMemory (url : Url) : Bool :=
  let name := url.database.getD ""
  name == "" || name == ":memory:" || url.values "mode" == ["memory"]

/-! ## Drivers -/

/-- The driver can open what the URL names, with a pool of connections. -/
def checkFor (url : Url) : Driver → Except Fault Unit
  | .client =>
    match url.servers with
    | .ok servers => servers.check
    | .error fault => .error fault
  | .embedded => do
    if !url.isLocal then throw .malformedUrl
    url.checkFileOptions
    if url.inMemory then throw .unboundedPool

/-- The URL for which an engine can be built. No plugin can be named, for none is installed. -/
def usable (url : Url) : Except Fault Url :=
  match url.values "plugin" with
  | plugin :: _ => .error (.unknownPlugin plugin)
  | [] => do
    let url := url.withoutPlugins
    let driver ← Driver.ofName url.driver
    url.checkFor driver
    return url

end Url

end ListingFilter.Database
