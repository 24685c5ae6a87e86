import Enquiry.CommandLine.Arguments
import Enquiry.Record.Table
import Enquiry.Service.Basic
import Enquiry.Settings.Layers
import Enquiry.Wire.Question
import Enquiry.Wire.Service

/-!
# The command line

`run` is what the program prints and the code it exits with: 0 when all went well, 1 when it did
not, and 2 when its arguments make no command. Settings are loaded before anything else is done,
but for `compile`, which needs none; an engine that cannot be run ends every command but `check`,
which reports it.
-/

namespace Enquiry.CommandLine

open Json Wire

/-- What the program finds around itself. -/
structure Surroundings (σ : Type) where
  environment : Environment
  files : Layer.Files
  /-- The engine at a path. -/
  engineAt : String → Engine σ
  today : Date

variable {σ : Type}

/-- What the program prints, what it complains about, and the code it exits with. -/
structure Outcome where
  exitCode : Nat
  output : String
  complaint : String
  deriving DecidableEq, Repr

namespace Outcome

/-- Ends with some output. -/
def printed (ok : Bool) (output : String) : Outcome := ⟨if ok then 0 else 1, output, ""⟩

/-- Ends with a failure and without output. -/
def failed (failure : Failure) : Outcome := ⟨1, "", failure.message ++ "\n"⟩

/-- Ends because the arguments make no command. -/
def misused : Outcome := ⟨2, "", "wrong arguments; see --help\n"⟩

/-- Ends with a value on many lines. -/
def value [Encodes α] (ok : Bool) (a : α) : Outcome := printed ok ((Encodes.json a).pretty ++ "\n")

/-- Ends with a response. -/
def response [EncodesMembers α] [EncodesMembers β] (r : Response α β) : Outcome :=
  value r.isSuccess r

end Outcome

/-- The store of the command line: it has no buckets, because there is no client for one. -/
def localStore : ObjectStore :=
  ObjectStore.empty.withCredentials
    ⟨false, none, none, some "no object store client configured"⟩

/-- The settings that the surroundings give. -/
def settings (s : Surroundings σ) : Except Failure Settings :=
  match Settings.load s.environment s.files (Settings.profile s.environment) with
  | .ok settings => .ok settings
  | .error fault => .error fault.failure

/-- The service with some settings. -/
def service (s : Surroundings σ) (settings : Settings) : Service σ :=
  ⟨.ofSettings settings (s.engineAt settings.binaryPath) s.environment, localStore, s.today⟩

/-- The service, if there are settings and an engine that can be run. -/
def readyService (s : Surroundings σ) : StateM σ (Except Failure (Service σ)) := do
  match settings s with
  | .error failure => return .error failure
  | .ok settings =>
      let service := service s settings
      return (← service.executor.check).map fun _ => service

/-- The answer to a question as a table, with the query above it and its size below. -/
def tableText (p : QueryPayload) : String :=
  let result : ResultSet := ⟨p.results, p.truncated, 0⟩
  let statistics := result.statistics
  let number (n : Nat) := String.ofList (Text.decimal n)
  p.query ++ "\n\n" ++ Table.text result ++ "\n\n" ++ number statistics.totalRecords ++
    " records, " ++ number statistics.fieldCount ++ " fields" ++
    (if statistics.truncated then " (truncated)" else "") ++ "\n"

def runQuery (s : Surroundings σ) (r : QueryRequest) (table : Bool) : StateM σ Outcome := do
  match ← readyService s with
  | .error failure => return .failed failure
  | .ok service =>
      return match ← service.query r, table with
      | .success p, true => .printed true (tableText p)
      | response, _ => .response response

def runExplore (s : Surroundings σ) (r : ExploreRequest) : StateM σ Outcome := do
  match ← readyService s with
  | .error failure => return .failed failure
  | .ok service => return .response (← service.explore r)

/-- The query of a question and the intent behind it. -/
structure Explanation where
  intent : Option Question.Intent
  query : String

instance : Encodes Explanation where
  json e := .object
    [("intent", (e.intent.map Encodes.json).getD .null), ("query", .string e.query)]

def runCompile (s : Surroundings σ) (r : QueryRequest) : Outcome :=
  .value true (⟨Question.intent? r.question,
    Query.compile ⟨r.locator, r.limit, s.today⟩ r.question⟩ : Explanation)

def runCheck (s : Surroundings σ) (path : Option String) : StateM σ Outcome := do
  match settings s with
  | .error failure => return .failed failure
  | .ok settings =>
      let report ← (service s settings).health path
      return .value report.healthy report

/-- Runs a command. -/
def runCommand (s : Surroundings σ) : Command → StateM σ Outcome
  | .query question path limit table => runQuery s ⟨question, path, limit⟩ table
  | .explore path sampleSize => runExplore s ⟨path, sampleSize⟩
  | .compile question path limit => return runCompile s ⟨question, path, limit⟩
  | .check path => runCheck s path

def helpText : String :=
  "Ask business questions of S3 data through the super engine\n\n" ++
  "Usage: superquery <COMMAND>\n\n" ++
  "Commands:\n" ++
  "  query    Compile a question and run it\n" ++
  "  explore  Sample a locator and report its schema and completeness\n" ++
  "  compile  Show the recognized intent and compiled query without running it\n" ++
  "  check    Self-test the engine binary, optionally probing a locator\n" ++
  "  help     Print this message or the help of the given subcommand(s)\n\n" ++
  "Options:\n" ++
  "  -h, --help     Print help\n" ++
  "  -V, --version  Print version\n"

def versionText : String := "superquery 0.1.0\n"

/-- Runs the program with some arguments. -/
def run (s : Surroundings σ) (args : List String) : StateM σ Outcome :=
  match Invocation.ofArguments args with
  | .run c => runCommand s c
  | .help => return .printed true helpText
  | .version => return .printed true versionText
  | .misuse => return .misused

end Enquiry.CommandLine
