import ListingFilter.Http.Request
/-!
# Responses

A response has a status and a JSON body. Every failure has a response: what the sender of the
request can mend is described, a failed statement is reported as a failure of the database, and
anything else only as an internal error.
-/

namespace ListingFilter.Http

/-- A status and a body, which is null if there is none. -/
structure Response where
  status : Nat
  body : Json := .null
  deriving Inhabited, Repr

namespace Response

/-- A successful response with its members beside `ok`. -/
def success (members : List (String × Json)) : Response :=
  ⟨200, .object (("ok", .bool true) :: members)⟩

/-- A response that describes what is wrong with a request. -/
def refusal (request : Request) (status : Nat) (name description : String) : Response :=
  ⟨status, .object [
    ("ok", .bool false),
    ("error", .text name),
    ("code", .integer status),
    ("description", .text description),
    ("path", .text request.path),
    ("method", .text request.method)]⟩

/-- The response to a request for something that does not exist. -/
def notFound (request : Request) (description : String) : Response :=
  refusal request 404 "Not Found" description

/-- The response to a request for a path that leads nowhere. -/
def nowhere (request : Request) : Response :=
  notFound request ("The requested URL was not found on the server. " ++
    "If you entered the URL manually please check your spelling and try again.")

/-- The response to a method that an endpoint does not know. -/
def methodRefused (request : Request) : Response :=
  refusal request 405 "Method Not Allowed" "The method is not allowed for the requested URL."

/-- The response to a request that names unknown columns. -/
def badRequest (request : Request) (description : String) : Response :=
  refusal request 400 "Bad Request" description

/-- A failure on the side of the service. -/
def failure (reason : String) : Response :=
  ⟨500, .object [("ok", .bool false), ("error", .text reason)]⟩

/-- A failure that is not described. -/
def internalError : Response := failure "Internal Server Error"

/-- A response that can be written. An integer too long for a numeral is an internal error. -/
def writable (response : Response) : Response :=
  if response.body.shown?.isSome then response else internalError

/-- The response to a request that fails. -/
def ofFault (request : Request) (fault : Fault) : Response :=
  let description := fault.message?.getD ""
  match fault with
  | .unknownResourceType _ | .filterNotFound _ => notFound request description
  | .invalidFilterColumns _ => badRequest request description
  | .statementFailed => failure "database error"
  | _ => internalError

/-- The response to a request, or to its failure. -/
def ofExcept (request : Request) : Except Fault Response → Response
  | .ok response => response.writable
  | .error fault => ofFault request fault

end Response

end ListingFilter.Http
