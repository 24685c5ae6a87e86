import Enquiry.Failure
import Enquiry.Text.Blank

/-!
# Settings

What the program may be told: where the engine is, how long and how much it may answer, and the
region to use when the caller names none.
-/

namespace Enquiry

structure Settings where
  binaryPath : String
  /-- In seconds. -/
  queryTimeout : Nat
  maxResults : Nat
  defaultRegion : String
  deriving DecidableEq, Repr

namespace Settings

/-- The settings when nothing is said. -/
def default : Settings := ⟨"/usr/local/bin/super", 300, 10000, "us-east-1"⟩

/-- The time a query may take. -/
def timeout (s : Settings) : Duration := .ofSeconds s.queryTimeout

/-- The first reason to refuse the settings, if there is one. -/
def fault? (s : Settings) : Option SettingsFault :=
  if s.queryTimeout = 0 then some .zeroTimeout
  else if s.maxResults = 0 then some .zeroResults
  else if (Text.trim s.defaultRegion.toList).isEmpty then some .blankRegion
  else none

/-- The settings themselves, unless they are refused. -/
def validate (s : Settings) : Except SettingsFault Settings :=
  match s.fault? with
  | some fault => .error fault
  | none => .ok s

end Settings

end Enquiry
