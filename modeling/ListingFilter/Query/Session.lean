import ListingFilter.Query
/-!
# Queries on a session

A session executes statements. What the database answers is given in advance, one outcome for each
statement; a session without outcomes left answers with nothing. The statements that were executed
are kept in order, also those that failed.
-/

namespace ListingFilter

/-- What the database answers to a statement. -/
inductive Outcome
  | answered (rows : List Json) (scalar : Json)
  | failed
  deriving Inhabited, Repr

/-- A session: the answers to come and the statements executed. -/
structure Session where
  outcomes : List Outcome
  executed : List Statement := []
  deriving Inhabited

/-- A computation on a session. -/
abbrev SessionM (α : Type) := ExceptT Fault (StateM Session) α

/-- A result or a fault that does not depend on the session. -/
def SessionM.ofExcept {α : Type} : Except Fault α → SessionM α
  | .ok value => pure value
  | .error fault => throw fault

namespace Session

/-- Executes one statement; returns the rows and the single value of the answer. -/
def execute (statement : Statement) : SessionM (List Json × Json) := fun session =>
  let session := { session with executed := session.executed ++ [statement] }
  match session.outcomes with
  | [] => (.ok ([], .null), session)
  | .answered rows scalar :: rest => (.ok (rows, scalar), { session with outcomes := rest })
  | .failed :: rest => (.error .statementFailed, { session with outcomes := rest })

end Session

/-- The statement that looks up the term of a stored filter. -/
def storedTermStatement (id : Json) : Statement :=
  ⟨"SELECT term FROM filters WHERE uuid = :uuid", [("uuid", id)]⟩

/-- The request names a stored filter; the text `0` names none. -/
def ListingRequest.storedFilter? (request : ListingRequest) : Option Json :=
  match request.storedFilter with
  | .text id => if id = "" || id = "0" then none else some (.text id)
  | id => if id.isGiven then some id else none

/-- The term without a stored filter. -/
def ListingRequest.inlineTerm (request : ListingRequest) : Json :=
  if request.filter.isGiven then request.filter else .text ""

/-- The term that a request applies: that of its stored filter, or its own. Without a session no
stored filter is found. -/
def ListingRequest.resolveTerm (request : ListingRequest) (hasSession : Bool) : SessionM Json :=
  match request.storedFilter? with
  | none => pure request.inlineTerm
  | some id =>
    if hasSession then do
      let (_, term) ← Session.execute (storedTermStatement id)
      match term with
      | .null => throw (.filterNotFound id)
      | term => pure term
    else throw (.filterNotFound id)

/-- The integer that an answer holds; an answer that is not given holds 0. -/
def countOf (scalar : Json) : Except Fault Int :=
  if !scalar.isGiven then .ok 0
  else
    match scalar with
    | .bool value => .ok (if value then 1 else 0)
    | .integer value => .ok value
    | .real value => (Clock.real value).truncated
    | .text value =>
      match Numeral.parse? value with
      | some value => .ok value
      | none => .error .notAnInteger
    | _ => .error .notANumber

namespace Site

/-- One page of a resource type. -/
def getRows (site : Site) (resource : ResourceRef) (request : ListingRequest) (access : Access) :
    SessionM (List Json × Clause) := do
  let term ← request.resolveTerm true
  let query ← SessionM.ofExcept (site.listing resource request access (some term))
  let (rows, _) ← Session.execute query.statement
  return (rows, query.clause)

/-- The number of rows of a resource type. -/
def countRows (site : Site) (resource : ResourceRef) (request : ListingRequest) (access : Access) :
    SessionM Int := do
  let term ← request.resolveTerm true
  let query ← SessionM.ofExcept (site.counting resource request access (some term))
  let (_, scalar) ← Session.execute query.statement
  SessionM.ofExcept (countOf scalar)

end Site

end ListingFilter
