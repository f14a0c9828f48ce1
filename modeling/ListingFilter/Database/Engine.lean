import ListingFilter.Database.Address
import ListingFilter.Database.Connection
/-!
# The shared engine

A process has at most one engine at a time, with a session factory and a provider of request
sessions that are made together with it. The engine is built from the environment of the first
request for it and stays the same, whatever the environment becomes, until it is disposed of. A
build that fails changes nothing.
-/

namespace ListingFilter.Database

/-- The options of an engine. -/
structure EngineOptions where
  /-- Statements are shown as they are executed. -/
  echo : Bool
  poolSize : Int
  /-- The number of connections beyond the pool; a pool without a size has no bound, shown as -1. -/
  maxOverflow : Int
  /-- A connection is tested before it is used. -/
  prePing : Bool
  deriving DecidableEq, Repr

/-- The integer that a variable holds, or the default if it is not set. -/
def integerVariable (environment : Environment) (name : String) (default : Int) :
    Except Fault Int :=
  match environment.get? name with
  | none => .ok default
  | some text =>
    match Numeral.parse? text with
    | some value => .ok value
    | none => .error .notAnInteger

/-- The variables of the options. -/
def EngineOptions.variableNames : List String :=
  ["SQLALCHEMY_ECHO", "SQLALCHEMY_POOL_SIZE", "SQLALCHEMY_MAX_OVERFLOW", "SQLALCHEMY_POOL_PRE_PING"]

/-- The options under an environment. -/
def EngineOptions.ofEnvironment (environment : Environment) : Except Fault EngineOptions := do
  let echo ← integerVariable environment "SQLALCHEMY_ECHO" 0
  let poolSize ← integerVariable environment "SQLALCHEMY_POOL_SIZE" 5
  let maxOverflow ← integerVariable environment "SQLALCHEMY_MAX_OVERFLOW" 10
  let prePing ← integerVariable environment "SQLALCHEMY_POOL_PRE_PING" 1
  return {
    echo := echo != 0
    poolSize := poolSize
    maxOverflow := if poolSize = 0 then -1 else maxOverflow
    prePing := prePing != 0 }

/-- An engine. The engines of a process are numbered in the order in which they were built. -/
structure Engine where
  number : Nat
  url : Url
  options : EngineOptions
  deriving DecidableEq, Repr

/-- What an engine is built from. -/
structure Blueprint where
  url : Url
  options : EngineOptions
  deriving DecidableEq, Repr

/-- The blueprint under an environment and the content of the configuration file. -/
def Blueprint.ofSources (environment : Environment) (file : FileContent) :
    Except Fault Blueprint := do
  let options ← EngineOptions.ofEnvironment environment
  let url ← Url.read (urlText environment file)
  let url ← url.usable
  return ⟨url, options⟩

/-- Makes sessions on an engine. -/
structure SessionFactory where
  engine : Engine
  deriving DecidableEq, Repr

/-- Hands out the sessions of a factory, one for each request. -/
structure RequestSessions where
  factory : SessionFactory
  deriving DecidableEq, Repr

/-- What the requests of a process share. -/
structure Shared where
  engine : Option Engine := none
  factory : Option SessionFactory := none
  requestSessions : Option RequestSessions := none
  /-- The number of engines built so far. -/
  built : Nat := 0
  deriving DecidableEq, Repr

namespace Shared

/-- The shared state after the engine of a blueprint was built. -/
def withEngine (shared : Shared) (blueprint : Blueprint) : Engine × Shared :=
  let engine : Engine := ⟨shared.built, blueprint.url, blueprint.options⟩
  let factory : SessionFactory := ⟨engine⟩
  (engine, ⟨some engine, some factory, some ⟨factory⟩, shared.built + 1⟩)

/-- The engine, which is built if there is none. -/
def getEngine (environment : Environment) (file : FileContent) (shared : Shared) :
    Except Fault Engine × Shared :=
  match shared.engine with
  | some engine => (.ok engine, shared)
  | none =>
    match Blueprint.ofSources environment file with
    | .ok blueprint =>
      let (engine, shared) := shared.withEngine blueprint
      (.ok engine, shared)
    | .error fault => (.error fault, shared)

/-- Disposes of the engine and of what was made with it. -/
def dispose (shared : Shared) : Shared := { built := shared.built }

end Shared

/-- What a process does with its engine. -/
inductive EngineStep
  /-- The engine is asked for under an environment and a configuration file. -/
  | get (environment : Environment) (file : FileContent)
  | dispose
  deriving DecidableEq

namespace Shared

/-- One step; only a request for the engine has a result. -/
def step (shared : Shared) : EngineStep → Option (Except Fault Engine) × Shared
  | .get environment file =>
    let (result, shared) := shared.getEngine environment file
    (some result, shared)
  | .dispose => (none, shared.dispose)

/-- The results of steps, and the state after them. -/
def run (shared : Shared) : List EngineStep → List (Option (Except Fault Engine)) × Shared
  | [] => ([], shared)
  | step :: steps =>
    let (result, shared) := shared.step step
    let (results, shared) := shared.run steps
    (result :: results, shared)

end Shared

end ListingFilter.Database
