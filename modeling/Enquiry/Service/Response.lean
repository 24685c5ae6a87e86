import Enquiry.Engine.Executor
import Enquiry.Failure
import Enquiry.Record.Schema
import Enquiry.Store.Basic

/-!
# Responses

An answer is a payload or an error, and an error repeats what was asked.
-/

namespace Enquiry

/-! ### Requests

What the service is asked. A number that the caller leaves out is a hundred.
-/

/-- A question about the objects of a locator. -/
structure QueryRequest where
  question : String
  locator : String
  limit : Nat
  deriving DecidableEq, Repr

structure ExploreRequest where
  locator : String
  sampleSize : Nat
  deriving DecidableEq, Repr

structure ListRequest where
  bucket : String
  keyStart : Option String
  deriving DecidableEq, Repr

/-- The limit of a query when the caller names none. -/
def QueryRequest.defaultLimit : Nat := 100

/-- The size of a sample when the caller names none. -/
def ExploreRequest.defaultSampleSize : Nat := 100

/-! ### Answers -/

inductive Response (payload input : Type) where
  | success (p : payload)
  | error (message : String) (i : input)
  deriving DecidableEq, Repr

namespace Response

variable {payload input : Type}

/-- The answer that an outcome makes. -/
def ofExcept (i : input) : Except Failure payload → Response payload input
  | .ok p => .success p
  | .error failure => .error failure.message i

def isSuccess : Response payload input → Bool
  | .success _ => true
  | .error _ _ => false

def payload? : Response payload input → Option payload
  | .success p => some p
  | .error _ _ => none

def error? : Response payload input → Option String
  | .success _ => none
  | .error message _ => some message

end Response

structure QueryPayload where
  query : String
  results : List Record
  recordCount : Nat
  truncated : Bool

/-- What an error repeats of a query. -/
structure QueryInput where
  question : String
  deriving DecidableEq, Repr

structure ExplorePayload where
  locator : String
  schema : SortedMap FieldSchema
  sampleRecords : List Record
  quality : Quality
  totalSampled : Nat

/-- What an error repeats of an exploration. -/
structure ExploreInput where
  locator : String
  deriving DecidableEq, Repr

structure ListPayload where
  bucket : String
  keyStart : Option String
  files : List ObjectInfo
  totalFiles : Nat
  totalSize : UInt64
  totalSizeText : String
  deriving DecidableEq, Repr

/-- What an error repeats of a listing. -/
structure ListInput where
  bucket : String
  keyStart : Option String
  deriving DecidableEq, Repr

structure LocatorHealth where
  locator : String
  status : LocatorStatus
  probe : ProbeOutcome
  deriving DecidableEq, Repr

/-- Whether engine and store can be used, and a locator read. -/
structure HealthReport where
  healthy : Bool
  binary : BinaryStatus
  credentials : CredentialStatus
  locator : Option LocatorHealth
  deriving DecidableEq, Repr

end Enquiry
