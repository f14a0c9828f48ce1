/-!
# Session scopes

Work on the database is done inside a scope. Inside a request all scopes use the session of the
request, which is provided for the first of them and stays open until the request is cleaned up;
outside a request each scope has a session of its own, which it closes. A scope whose body fails
inside a transaction rolls it back, and the failure goes on. What happens is recorded as a list of
events.

Scopes may stand inside scopes, and requests inside requests: a request that begins inside another
one has a session of its own to remember, but the provider of request sessions is the same.
-/

namespace ListingFilter.Database

/-- What happens to sessions and connections. Sessions are numbered from 1 as they are made. -/
inductive ScopeEvent
  | created (session : Nat)
  | used (session : Nat)
  | rolledBack (session : Nat)
  | closed (session : Nat)
  /-- The provider of request sessions forgot its session. -/
  | removed
  | executed (sql : String)
  | disconnected
  deriving DecidableEq, Repr

/-- What the body of a scope does: whether it fails, and whether its session is in a transaction
when it ends. -/
structure Body where
  fails : Bool := false
  inTransaction : Bool := false
  deriving DecidableEq, Repr

/-- The sessions made so far, the session of the request and that of the provider. -/
structure Scopes where
  made : Nat := 0
  requestSession : Option Nat := none
  /-- The session that the provider gives to each request until it forgets it. -/
  provided : Option Nat := none
  deriving DecidableEq, Repr

/-- The outcome of a scope: its session and what happened. -/
structure Scoped where
  session : Nat
  events : List ScopeEvent
  deriving DecidableEq, Repr

namespace Scopes

/-- A session that the scope keeps to itself. -/
def beginOwn (scopes : Scopes) : Scoped × Scopes :=
  let session := scopes.made + 1
  (⟨session, [.created session]⟩, { scopes with made := session })

/-- The session of the request. The first scope has it provided. -/
def beginShared (scopes : Scopes) : Scoped × Scopes :=
  match scopes.requestSession, scopes.provided with
  | some session, _ => (⟨session, []⟩, scopes)
  | none, some session => (⟨session, []⟩, { scopes with requestSession := some session })
  | none, none =>
    let session := scopes.made + 1
    (⟨session, [.created session]⟩, ⟨session, some session, some session⟩)

/-- The session for a scope, with the events of making it. -/
def begin (inRequest : Bool) (scopes : Scopes) : Scoped × Scopes :=
  if inRequest then scopes.beginShared else scopes.beginOwn

/-- What happens after the body of a scope. -/
def closing (inRequest : Bool) (body : Body) (session : Nat) : List ScopeEvent :=
  (if body.fails && body.inTransaction then [.rolledBack session] else []) ++
  (if inRequest then [] else [.closed session])

/-- The clean-up at the end of a request. -/
def cleanUp (scopes : Scopes) : List ScopeEvent × Scopes :=
  ([.removed], { scopes with requestSession := none, provided := none })

end Scopes

/-! ### Work in scopes -/

/-- What a program does with scopes and requests. -/
inductive Work
  | rest
  | fail (failure : String)
  /-- The session of the request is given up, which may be before the request ends. -/
  | cleanUp
  /-- A scope, and whether its session is in a transaction when the body ends. -/
  | scope (inTransaction : Bool) (body : Work)
  /-- A request, and whether the application cleans up after it. -/
  | request (cleansUp : Bool) (body : Work)
  /-- The failure of the body goes no further. -/
  | attempt (body : Work)
  /-- The second part is not done if the first one fails. -/
  | both (first next : Work)
  deriving DecidableEq, Repr

/-- The course of one scope. -/
structure ScopeRecord where
  inRequest : Bool
  session : Nat
  inTransaction : Bool
  bodyFailure : Option String
  opening : List ScopeEvent
  /-- What happened in the body. -/
  during : List ScopeEvent
  closing : List ScopeEvent
  deriving DecidableEq, Repr

def ScopeRecord.events (record : ScopeRecord) : List ScopeEvent :=
  record.opening ++ record.during ++ record.closing

/-- What is known of some work afterwards. -/
structure WorkLog where
  events : List ScopeEvent := []
  records : List ScopeRecord := []
  /-- The sessions of the scopes of this request in their order, with `none` for a clean-up. -/
  moments : List (Option Nat) := []
  /-- The moments of the requests that began in the meantime. -/
  requests : List (List (Option Nat)) := []
  deriving DecidableEq, Repr

namespace WorkLog

/-- One log after another. -/
def append (log next : WorkLog) : WorkLog :=
  ⟨log.events ++ next.events, log.records ++ next.records, log.moments ++ next.moments,
    log.requests ++ next.requests⟩

/-- The log of a scope. -/
def ofScope (record : ScopeRecord) (body : WorkLog) : WorkLog :=
  { events := record.events, records := record :: body.records,
    moments := some record.session :: body.moments, requests := body.requests }

/-- The log of a request, for the work around it. -/
def ofRequest (body : WorkLog) (cleaning : List ScopeEvent) : WorkLog :=
  { events := body.events ++ cleaning, records := body.records,
    requests := body.moments :: body.requests }

end WorkLog

/-- How some work ended. -/
structure WorkOutcome where
  failure : Option String
  scopes : Scopes
  log : WorkLog := {}
  deriving DecidableEq, Repr

/-- Does the work, inside a request or not. -/
def Work.run : Work → Bool → Scopes → WorkOutcome
  | .rest, _, scopes => ⟨none, scopes, {}⟩
  | .fail failure, _, scopes => ⟨some failure, scopes, {}⟩
  | .cleanUp, _, scopes =>
    let (events, scopes) := scopes.cleanUp
    ⟨none, scopes, { events, moments := [none] }⟩
  | .scope inTransaction body, inRequest, scopes =>
    let (opened, scopes) := scopes.begin inRequest
    let outcome := body.run inRequest scopes
    let record : ScopeRecord :=
      { inRequest, session := opened.session, inTransaction, bodyFailure := outcome.failure
        opening := opened.events ++ [.used opened.session]
        during := outcome.log.events
        closing := Scopes.closing inRequest ⟨outcome.failure.isSome, inTransaction⟩ opened.session }
    { outcome with log := .ofScope record outcome.log }
  | .request cleansUp body, _, scopes =>
    let outcome := body.run true { scopes with requestSession := none }
    let (events, ended) := if cleansUp then outcome.scopes.cleanUp else ([], outcome.scopes)
    ⟨outcome.failure, { ended with requestSession := scopes.requestSession },
      outcome.log.ofRequest events⟩
  | .attempt body, inRequest, scopes => { body.run inRequest scopes with failure := none }
  | .both first next, inRequest, scopes =>
    let outcome := first.run inRequest scopes
    match outcome.failure with
    | some _ => outcome
    | none =>
      let outcome' := next.run inRequest outcome.scopes
      { outcome' with log := outcome.log.append outcome'.log }

/-- One scope without another one in its body. A body that fails does so after the events of the
scope. -/
def Scopes.use (inRequest : Bool) (body : Body) (scopes : Scopes) : Scoped × Scopes :=
  let work := Work.scope body.inTransaction (if body.fails then .fail "failed" else .rest)
  let outcome := work.run inRequest scopes
  (⟨(scopes.begin inRequest).1.session, outcome.log.events⟩, outcome.scopes)

/-- How a connection behaves. -/
inductive Health
  | works
  | failsToOpen
  | failsToExecute
  deriving DecidableEq, Repr

/-- A trial statement on a fresh connection: whether it succeeds, and what happens. -/
def ping : Health → Bool × List ScopeEvent
  | .works => (true, [.executed "select 1", .disconnected])
  | .failsToOpen => (false, [])
  | .failsToExecute => (false, [.executed "select 1", .disconnected])

end ListingFilter.Database
