import ListingFilter.Fault
import ListingFilter.Text.Percent
import ListingFilter.Text.Substring
import ListingFilter.Text.Word
/-!
# Database URLs

A database URL names a driver, then, each optional, a user with a password, a host, a port, a
database and a query. It is read from left to right and every part takes as many characters as it
may; what no part can take is left out. Only the driver is required.

A URL is written in one form: the user, the password and the database percent-encoded, the port in
decimal digits, the query sorted by name.
-/

namespace ListingFilter.Database

open Text (isWord)

/-- The parts of a database URL. -/
structure Url where
  driver : String
  user : Option String := none
  password : Option String := none
  host : Option String := none
  port : Option Int := none
  database : Option String := none
  /-- The names and values of the query, in order. -/
  query : List (String × String) := []
  deriving DecidableEq, Repr

namespace Url

/-- The characters up to the first one for which `stops` holds, and the rest. -/
def spanUntil (stops : Char → Bool) (cs : List Char) : List Char × List Char :=
  (cs.takeWhile (!stops ·), cs.dropWhile (!stops ·))

/-- The characters before and after the first `c`, if it occurs. -/
def cutFirst? (c : Char) (cs : List Char) : Option (List Char × List Char) :=
  match cs.dropWhile (· != c) with
  | [] => none
  | _ :: rest => some (cs.takeWhile (· != c), rest)

/-- The characters before and after the last `c`, if it occurs. -/
def cutLast? (c : Char) (cs : List Char) : Option (List Char × List Char) :=
  (cutFirst? c cs.reverse).map fun (after, before) => (before.reverse, after.reverse)

/-- The driver and the characters after it. -/
def takeDriver? (cs : List Char) : Option (List Char × List Char) :=
  let name := cs.takeWhile fun c => isWord c || c == '+'
  match name, cs.drop name.length with
  | _ :: _, ':' :: '/' :: '/' :: rest => some (name, rest)
  | _, _ => none

/-- The user, the password and the characters after the sign that ends them. -/
def takeCredentials (cs : List Char) : Option (List Char) × Option (List Char) × List Char :=
  let (run, rest) := spanUntil (fun c => c == ':' || c == '/') cs
  let alone :=
    match cutLast? '@' run with
    | some (user, after) => (some user, none, after ++ rest)
    | none => (none, none, cs)
  match rest with
  | ':' :: later =>
    match cutFirst? '@' later with
    | some (password, after) => (some run, some password, after)
    | none => alone
  | _ => alone

/-- The host and the characters after it. A host in brackets may hold colons. -/
def takeHost (cs : List Char) : Option (List Char) × List Char :=
  let plain :=
    match spanUntil (fun c => c == '/' || c == ':' || c == '?') cs with
    | ([], _) => (none, cs)
    | (name, rest) => (some name, rest)
  match cs with
  | '[' :: inside =>
    let (run, rest) := spanUntil (fun c => c == '/' || c == '?') inside
    match cutLast? ']' run with
    | some (name@(_ :: _), after) => (some name, after ++ rest)
    | _ => plain
  | _ => plain

/-- The part after `mark` up to a character for which `stops` holds. -/
def takeAfter (mark : Char) (stops : Char → Bool) (cs : List Char) :
    Option (List Char) × List Char :=
  match cs with
  | c :: rest =>
    if c = mark then
      let (part, rest) := spanUntil stops rest
      (some part, rest)
    else (none, cs)
  | [] => (none, [])

/-- The port that the characters stand for. -/
def portOf : Option (List Char) → Except Fault (Option Int)
  | none => .ok none
  | some cs =>
    match Numeral.parse? (String.ofList cs) with
    | some port => .ok (some port)
    | none => .error .notAnInteger

/-- The percent-decoded text. -/
def decoded (cs : List Char) : String := Text.Percent.decode (String.ofList cs)

/-- The parts of the URL that `source` holds. -/
def read (source : String) : Except Fault Url :=
  match takeDriver? source.toList with
  | none => .error .malformedUrl
  | some (driver, rest) =>
    let (user, password, rest) := takeCredentials rest
    let (name, rest) := takeHost rest
    let (port, rest) := takeAfter ':' (fun c => c == '/' || c == '?') rest
    let (database, rest) := takeAfter '/' (· == '?') rest
    let (query, _) := takeAfter '?' (· == '\n') rest
    (portOf port).map fun port =>
      { driver := String.ofList driver
        user := user.map decoded
        password := password.map decoded
        host := name.map String.ofList
        port := port
        database := database.map decoded
        query := Text.Percent.filledFields (String.ofList (query.getD [])) }

/-- The query as it is written, sorted by name. -/
def queryText (query : List (String × String)) : String :=
  let pairs := query.mergeSort fun a b => !(b.1 < a.1)
  let written := pairs.map fun (name, value) =>
    Text.Percent.encodeForm name ++ "=" ++ Text.Percent.encodeForm value
  if written.isEmpty then "" else "?" ++ String.intercalate "&" written

/-- A host as it is written. -/
def hostText (name : String) : String :=
  if name.toList.contains ':' then "[" ++ name ++ "]" else name

/-- The user and the password as they are written. -/
def credentialsText (url : Url) : String :=
  match url.user with
  | none => ""
  | some user =>
    Text.Percent.encodeCredential user ++
      (match url.password with
        | none => ""
        | some password => ":" ++ Text.Percent.encodeCredential password) ++ "@"

/-- A URL in its one form. -/
def text (url : Url) : String :=
  url.driver ++ "://" ++ url.credentialsText ++ (url.host.map hostText).getD "" ++
    (url.port.map fun port => ":" ++ toString port).getD "" ++
    (url.database.map fun name => "/" ++ Text.Percent.encodePath name).getD "" ++
    queryText url.query

end Url

end ListingFilter.Database
