import ListingFilter.Fault
import ListingFilter.Flag
import ListingFilter.Http.Target
import ListingFilter.Query
/-!
# Requests

The parameters of a request come from the query of its target, then from a form, then from a JSON
object in its body. The first value under a name counts, but a member of the object replaces what
the query and the form say, also if it is null. A request that reads only has no form.
-/

namespace ListingFilter.Http

/-- The body of a request. -/
inductive RequestBody
  | empty
  | json (value : Json)
  | form (fields : List (String × String))
  deriving Inhabited, Repr

/-- A request. -/
structure Request where
  method : String
  /-- The decoded path. -/
  path : String
  query : List (String × String)
  body : RequestBody
  deriving Inhabited, Repr

namespace Request

/-- The request for a target. The query is part of the target or given beside it, not both. -/
def ofTarget (method target : String) (query : Option (List (String × String)))
    (body : RequestBody) : Except Fault Request :=
  let target := Target.ofText target
  let request (query : List (String × String)) : Request :=
    ⟨String.ofList (method.toList.map Char.toUpper), target.decodedPath, query, body⟩
  match query with
  | none => .ok (request (Text.Percent.fields target.query))
  | some query => if target.query = "" then .ok (request query) else .error .queryGivenTwice

/-- The fields of the query and of the form. -/
def fields (request : Request) : List (String × String) :=
  match request.body with
  | .form fields => if request.method = "GET" then request.query else request.query ++ fields
  | _ => request.query

/-- The value of a parameter; null if it is not given. -/
def value (request : Request) (name : String) : Json :=
  let field := ((lookup? request.fields name).map Json.text).getD .null
  match request.body with
  | .json (.object members) => (lookup? members name).getD field
  | _ => field

/-- The flag that a value stands for: a Boolean itself, and a text or number if it is a word for
yes. -/
def flagOf : Json → Except Fault Bool
  | .null => .ok false
  | .bool value => .ok value
  | value =>
    match value.display? with
    | some text => .ok (Flag.ofText? text == some true)
    | none => .error .numeralTooLong

/-- The flag under a name. -/
def flag (request : Request) (name : String) : Except Fault Bool := flagOf (request.value name)

/-- What a request asks of a listing. -/
def listing (request : Request) : Except Fault ListingRequest := do
  let trash ← request.flag "trash"
  let ignoreCap ← request.flag "ignore_max_rows_per_page"
  let ignorePagination ← request.flag "ignore_pagination"
  return {
    filter := request.value "filter"
    storedFilter := request.value "filt_id"
    trash := trash
    ignoreCap := ignoreCap
    ignorePagination := ignorePagination }

end Request

end ListingFilter.Http
