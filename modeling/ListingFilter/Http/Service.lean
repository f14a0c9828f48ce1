import ListingFilter.Cleaning
import ListingFilter.Clause.Unknown
import ListingFilter.Http.Endpoint
import ListingFilter.Http.Response
import ListingFilter.Query.Session
import ListingFilter.Settings.Resolve
/-!
# The service

The service answers requests for listings, counts and cleaned filters. A listing or a count first
finds its resource type, then its term, then, if the settings say so, checks the columns of the
term, and only then executes its statement.
-/

namespace ListingFilter.Http

open Session (execute)

/-- The settings of a service: those that it was opened with, if they were kept, else those of its
environment and its configuration file. -/
def serviceSettings (given : Option Settings) (kept : Bool) (environment : Environment)
    (file : FileContent) : Except Fault Settings :=
  match given with
  | some settings => if kept then .ok settings else Settings.ofSources environment file
  | none => Settings.ofSources environment file

/-- Under strict settings a term may name known columns only. -/
def checkColumns (site : Site) (type : ResourceType) (term : Json) (trash : Bool) :
    Except Fault Unit :=
  if site.settings.strictColumns then do
    match ← Term.ofJson term with
    | .text term =>
      let unknown ← unknownColumns site.clock (type.selected trash) (type.filtered trash) term
      if unknown.isEmpty then .ok () else .error (.invalidFilterColumns unknown)
    | .listed _ => .ok ()
  else .ok ()

/-- The term of a listing, after its columns were checked. -/
def checkedTerm (site : Site) (type : ResourceType) (listing : ListingRequest) : SessionM Json := do
  let term ← listing.resolveTerm true
  SessionM.ofExcept (checkColumns site type term listing.trash)
  return term

/-- The listing with a resolved term. -/
def inlined (listing : ListingRequest) (term : Json) : ListingRequest :=
  { listing with filter := term, storedFilter := .null }

/-- The response to a request for rows. -/
def listRows (site : Site) (type : ResourceType) (listing : ListingRequest) :
    SessionM Response := do
  let term ← checkedTerm site type listing
  let (rows, clause) ← site.getRows (.given type) (inlined listing term) {}
  let cleaned ← SessionM.ofExcept do
    (← Term.ofJson term).clean site.clock site.settings listing.ignoreCap none
  return .success [
    ("rows", .array rows),
    ("first", .integer clause.first),
    ("max", .integer clause.max),
    ("filter", .text cleaned)]

/-- The response to a request for the number of rows. -/
def countRows (site : Site) (type : ResourceType) (listing : ListingRequest) :
    SessionM Response := do
  let term ← checkedTerm site type listing
  let count ← site.countRows (.given type) (inlined listing term) {}
  return .success [("count", .integer count)]

/-- The column to be removed by a cleaning, if one is given. -/
def removedColumn : Json → Except Fault (Option String)
  | .text column => .ok (if column = "" then none else some column)
  | value => if value.isGiven then .error .termNotText else .ok none

/-- The response to a request for a cleaned filter. -/
def cleanFilter (site : Site) (request : Request) : Except Fault Response := do
  let ignoreCap ← request.flag "ignore_max_rows_per_page"
  let remove ← removedColumn (request.value "remove")
  let term ← Term.ofJson (request.value "filter")
  let cleaned ← term.clean site.clock site.settings ignoreCap remove
  return .success [("filter", .text cleaned)]

/-- The answer of an endpoint that works on a resource type. -/
def withType (site : Site) (request : Request) (name : String)
    (answer : ResourceType → ListingRequest → SessionM Response) : SessionM Response := do
  let type ← SessionM.ofExcept (site.registry.find (some name))
  let listing ← SessionM.ofExcept request.listing
  answer type listing

/-- The answer of an endpoint; `healthy` tells whether the database can be reached. -/
def answer (site : Site) (healthy : Bool) (request : Request) : Endpoint → SessionM Response
  | .listing name => withType site request name (listRows site)
  | .counting name => withType site request name (countRows site)
  | .cleaning => SessionM.ofExcept (cleanFilter site request)
  | .health => return ⟨200, .object [("ok", .bool healthy)]⟩
  | .file _ => return .nowhere request

/-- The response without its body. -/
def Response.withoutBody (response : Response) : Response := { response with body := .null }

/-- The response of an endpoint to a request whose method it knows. A request for the options gets
none of its answer, one for the head all but the body. -/
def respondAt (site : Site) (healthy : Bool) (request : Request) (endpoint : Endpoint)
    (session : Session) : Response × Session :=
  if request.method = "OPTIONS" then (⟨200, .null⟩, session)
  else
    let (result, session) := answer site healthy request endpoint session
    (Response.ofExcept request result, session)

/-- The response to a request, and the session after it. -/
def respond (site : Site) (healthy : Bool) (request : Request) (session : Session) :
    Response × Session :=
  let (response, session) :=
    match route request.method request.path with
    | .to endpoint => respondAt site healthy request endpoint session
    | .redirected _ => (⟨308, .null⟩, session)
    | .methodRefused => (.methodRefused request, session)
    | .nowhere => (.nowhere request, session)
  (if request.method = "HEAD" then response.withoutBody else response, session)

end ListingFilter.Http
