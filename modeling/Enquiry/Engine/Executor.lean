import Enquiry.Engine.Supervision
import Enquiry.Environment
import Enquiry.Settings.Basic

/-!
# Running the engine

An engine is a program at a path, which may be missing or refuse to start. It runs in a world of
states, and what one run leaves behind is what the next one finds. An `Executor` runs it in an
environment, with limits on its time and its records.
-/

namespace Enquiry

/-! ### Variables of the engine

The engine lives in the environment of its caller. The variables that hold credentials are handed
over by name, and a region is put in when the caller has none; a region that is there but empty is
kept.
-/

/-- What is added to the environment of the caller. -/
structure EngineVariables where
  forwarded : List (String × String)
  injectedRegion : Option String
  deriving DecidableEq, Repr

namespace EngineVariables

def regionVariable : String := "AWS_REGION"

/-- The variables that are handed over, in their order. -/
def credentialVariables : List String :=
  ["AWS_ACCESS_KEY_ID", "AWS_SECRET_ACCESS_KEY", "AWS_SESSION_TOKEN", regionVariable]

/-- What a caller's environment calls for. -/
def ofEnvironment (env : Environment) (defaultRegion : String) : EngineVariables :=
  ⟨credentialVariables.filterMap fun name => (env.get? name).map (name, ·),
    if (env.get? regionVariable).isNone then some defaultRegion else none⟩

/-- The environment with the variables added. -/
def apply (vars : EngineVariables) (env : Environment) : Environment :=
  let env := env.setAll vars.forwarded
  match vars.injectedRegion with
  | some region => env.set regionVariable region
  | none => env

end EngineVariables

/-! ### Executors -/

/-- An engine in a world of states `σ`. -/
structure Engine (σ : Type) where
  path : String
  /-- The path names a program. -/
  check : σ → Except Failure Unit
  /-- The process of a run with some arguments in an environment. -/
  start : List String → Environment → σ → Except Failure (Process σ)

structure Executor (σ : Type) where
  engine : Engine σ
  environment : Environment
  timeout : Duration
  maxResults : Nat
  defaultRegion : String

/-- Whether the engine can be run, and which version it is. -/
structure BinaryStatus where
  path : String
  accessible : Bool
  version : Option String
  error : Option String
  deriving DecidableEq, Repr

/-- Whether one record could be read from a locator. -/
structure ProbeOutcome where
  reachable : Bool
  error : Option String
  deriving DecidableEq, Repr

namespace Executor

variable {σ : Type}

/-- The executor that some settings ask for. -/
def ofSettings (settings : Settings) (engine : Engine σ) (environment : Environment) :
    Executor σ :=
  ⟨engine, environment, settings.timeout, settings.maxResults, settings.defaultRegion⟩

/-- The environment of a query. -/
def queryEnvironment (x : Executor σ) : Environment :=
  (EngineVariables.ofEnvironment x.environment x.defaultRegion).apply x.environment

/-- The arguments of a query. -/
def queryArguments (query locator : String) : List String := ["-f", "json", "-c", query, locator]

/-- Runs a query under given limits. -/
def executeWith (x : Executor σ) (query locator : String) (timeout : Duration)
    (maxResults : Nat) : StateM σ (Except Failure ResultSet) := fun s =>
  match x.engine.start (queryArguments query locator) x.queryEnvironment s with
  | .error failure => (.error failure, s)
  | .ok process => process.records timeout maxResults

/-- Runs a query. -/
def execute (x : Executor σ) (query locator : String) : StateM σ (Except Failure ResultSet) :=
  x.executeWith query locator x.timeout x.maxResults

def versionTimeout : Duration := .ofSeconds 10

/-- The version that the engine reports. -/
def version (x : Executor σ) : StateM σ (Except Failure String) := fun s =>
  match x.engine.start ["--version"] x.environment s with
  | .error failure => (.error failure, s)
  | .ok process => process.capture versionTimeout

/-- Whether the path of the engine names a program. -/
def check (x : Executor σ) : StateM σ (Except Failure Unit) := fun s => (x.engine.check s, s)

/-- Whether the engine can be run. -/
def binaryStatus (x : Executor σ) : StateM σ BinaryStatus := do
  let version ← match ← x.check with
    | .ok _ => x.version
    | .error failure => pure (.error failure)
  return match version with
  | .ok version => ⟨x.engine.path, true, some version, none⟩
  | .error failure => ⟨x.engine.path, false, none, some failure.message⟩

def probeQuery : String := "HEAD 1"

def probeTimeout : Duration := .ofSeconds 30

/-- Whether one record can be read from a locator. -/
def probe (x : Executor σ) (locator : String) : StateM σ ProbeOutcome := do
  return match ← x.executeWith probeQuery locator probeTimeout 1 with
  | .ok _ => ⟨true, none⟩
  | .error failure => ⟨false, some failure.message⟩

end Executor

end Enquiry
