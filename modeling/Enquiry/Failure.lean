import Enquiry.Number.Notation

/-!
# Failures

What can go wrong, by its cause. `Failure.message` has the wording.
-/

namespace Enquiry

open Number

/-- A span of time. -/
structure Duration where
  nanoseconds : Nat
  deriving DecidableEq, Repr

namespace Duration

def nanosPerSecond : Nat := 1000000000

def nanosPerMillisecond : Nat := 1000000

def ofSeconds (s : Nat) : Duration := ⟨s * nanosPerSecond⟩

def ofMilliseconds (ms : Nat) : Duration := ⟨ms * nanosPerMillisecond⟩

/-- Whole milliseconds. -/
def milliseconds (d : Duration) : Nat := d.nanoseconds / nanosPerMillisecond

/-- The span in seconds: its whole seconds and its fraction, each rounded to double precision,
and their rounded sum. -/
def seconds (d : Duration) : Binary64 :=
  let whole := (Binary64.ofNat? (d.nanoseconds / nanosPerSecond)).getD .zero
  let fraction := (Binary64.ofRatio? (d.nanoseconds % nanosPerSecond) nanosPerSecond).getD .zero
  (whole.add? fraction).getD .zero

end Duration

/-- Why settings are refused. -/
inductive SettingsFault where
  | zeroTimeout | zeroResults | blankRegion
  deriving DecidableEq, Repr

/-- The wording of a fault. -/
def SettingsFault.message : SettingsFault → String
  | .zeroTimeout => "query_timeout must be greater than zero"
  | .zeroResults => "max_results must be greater than zero"
  | .blankRegion => "default_region must not be empty"

inductive Failure where
  | invalidConfig (detail : String)
  | binaryNotFound (path : String)
  | binaryNotExecutable (path : String)
  | executionFailed (diagnostics : String)
  | timeout (limit : Duration)
  | invalidLocator (input : String)
  | accessDenied (detail : String)
  | notFound (detail : String)
  | io (detail : String)
  deriving DecidableEq, Repr

/-- The wording of a failure. -/
def Failure.message : Failure → String
  | .invalidConfig detail => "Invalid configuration: " ++ detail
  | .binaryNotFound path => "Super binary not found at " ++ path
  | .binaryNotExecutable path => "Super binary not executable at " ++ path
  | .executionFailed diagnostics => "Super query failed: " ++ diagnostics
  | .timeout limit =>
      "Query timeout after " ++ String.ofList limit.seconds.positional ++ " seconds"
  | .invalidLocator input => "Invalid S3 path: " ++ input
  | .accessDenied detail => "Access denied: " ++ detail
  | .notFound detail => "Not found: " ++ detail
  | .io detail => "I/O error: " ++ detail

/-- The failure of settings that are refused. -/
def SettingsFault.failure (fault : SettingsFault) : Failure := .invalidConfig fault.message

end Enquiry
