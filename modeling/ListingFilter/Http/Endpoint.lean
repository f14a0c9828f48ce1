import ListingFilter.Text.Substring
/-!
# Endpoints

Which endpoint a path leads to, and which methods an endpoint knows. The parts of a path are what
its slashes separate. A path that leads nowhere because it repeats slashes is redirected to the path
with single ones.
-/

namespace ListingFilter.Http

/-- The places that requests are answered at. -/
inductive Endpoint
  /-- The rows of a resource type. -/
  | listing (type : String)
  /-- The number of rows of a resource type. -/
  | counting (type : String)
  | cleaning
  | health
  /-- A file to be served as it is. -/
  | file (name : String)
  deriving DecidableEq, Repr

namespace Endpoint

/-- The methods that an endpoint knows. -/
def methods : Endpoint → List String
  | .cleaning => ["GET", "HEAD", "OPTIONS", "POST"]
  | _ => ["GET", "HEAD", "OPTIONS"]

/-- A name that a file to be served may have. -/
def isFileName (name : String) : Bool :=
  match name.toList with
  | [] => false
  | c :: rest => c != '/' && !rest.contains '\n'

/-- The endpoint at a path, given by its parts. -/
def ofParts? : List String → Option Endpoint
  | ["", "api", "resources", type] => if type = "" then none else some (.listing type)
  | ["", "api", "resources", type, "count"] => if type = "" then none else some (.counting type)
  | ["", "api", "filters", "clean"] => some .cleaning
  | ["", "api", "health"] => some .health
  | "" :: "static" :: names =>
    let name := String.intercalate "/" names
    if isFileName name then some (.file name) else none
  | _ => none

end Endpoint

/-- The endpoint at a path. -/
def endpoint? (path : String) : Option Endpoint :=
  Endpoint.ofParts? ((Text.splitOn '/' path.toList).map String.ofList)

/-- Slashes in a row become one. -/
def mergeSlashes : List Char → List Char
  | '/' :: rest@('/' :: _) => mergeSlashes rest
  | c :: rest => c :: mergeSlashes rest
  | [] => []

/-- Where a request is sent. -/
inductive Routing
  | to (endpoint : Endpoint)
  /-- To the path with single slashes. -/
  | redirected (path : String)
  | methodRefused
  | nowhere
  deriving DecidableEq, Repr

/-- The endpoint, if it knows the method. -/
def knowing? (method : String) (endpoint : Option Endpoint) : Option Endpoint :=
  endpoint.filter fun endpoint => endpoint.methods.contains method

/-- Where a request is sent by its method and its path. -/
def route (method path : String) : Routing :=
  let merged := String.ofList (mergeSlashes path.toList)
  match knowing? method (endpoint? path) with
  | some endpoint => .to endpoint
  | none =>
    if (knowing? method (endpoint? merged)).isSome then .redirected merged
    else if (endpoint? path).isSome || (endpoint? merged).isSome then .methodRefused
    else .nowhere

end ListingFilter.Http
