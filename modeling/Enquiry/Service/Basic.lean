import Enquiry.Number.Notation
import Enquiry.Number.Word
import Enquiry.Query.Compile
import Enquiry.Service.Response
import Enquiry.Store.Basic

/-!
# The service

The service answers questions about objects: it compiles them to queries, has the engine run
those, and describes what comes back. Every operation but the health report answers with a
`Response`; a listing whose sizes are too large to be added breaks off instead (`Panic`). A locator
is read before the engine is run; one that cannot be read runs nothing. What runs the engine is a
computation in the states of the world that the engine runs in.
-/

namespace Enquiry

open Number

/-! ### Sizes for readers

A number of bytes is shown in the largest unit that it reaches, with one decimal. The number is
rounded to double precision first; the units are powers of two, so nothing is rounded again
before the decimal is cut.
-/

def sizeUnits : List String := ["B", "KB", "MB", "GB", "TB"]

/-- Divides by 1024 for as long as a larger unit is reached and there is one. The quotient is
`num / den`. -/
def inLargestUnit (num den : Nat) : List String → Nat × Nat × String
  | [] => (num, den, "")
  | [unit] => (num, den, unit)
  | unit :: larger =>
      if 1024 * den ≤ num then inLargestUnit num (1024 * den) larger else (num, den, unit)

/-- The size as text. -/
def sizeText (bytes : Nat) : String :=
  if bytes = 0 then "0 B"
  else
    let (num, den) := ((Binary64.ofNat? bytes).getD .zero).ratio
    let (num, den, unit) := inLargestUnit num den sizeUnits
    String.ofList (oneDecimal num den ++ ' ' :: unit.toList)

/-! ### Operations -/

/-- How an operation breaks off: there is no answer then, not even an error. -/
inductive Panic where
  /-- A sum of sizes that 64 bits do not hold. -/
  | overflow
  deriving DecidableEq, Repr

structure Service (σ : Type) where
  executor : Executor σ
  store : ObjectStore
  today : Date

namespace Service

variable {σ : Type}

/-- Compiles a question and runs it. -/
def runQuery (s : Service σ) (r : QueryRequest) : StateM σ (Except Failure QueryPayload) := do
  match Locator.read r.locator with
  | .error failure => return .error failure
  | .ok _ =>
      let query := Query.compile ⟨r.locator, r.limit, s.today⟩ r.question
      return (← s.executor.execute query r.locator).map fun result =>
        ⟨query, result.records, result.size, result.truncated⟩

/-- Answers a question. -/
def query (s : Service σ) (r : QueryRequest) :
    StateM σ (Response QueryPayload QueryInput) := do
  return .ofExcept ⟨r.question⟩ (← s.runQuery r)

/-- How many records an exploration shows. -/
def maxPreview : Nat := 10

/-- Takes a sample and describes its fields. -/
def runExplore (s : Service σ) (r : ExploreRequest) :
    StateM σ (Except Failure ExplorePayload) := do
  match Locator.read r.locator with
  | .error failure => return .error failure
  | .ok _ =>
      return (← s.executor.execute (Query.listing r.locator r.sampleSize) r.locator).map
        fun sample =>
          let analysis := Analysis.ofRecords sample.records
          ⟨r.locator, analysis.schema, sample.records.take maxPreview, analysis.quality,
            sample.size⟩

/-- Describes the fields of the records of a locator. -/
def explore (s : Service σ) (r : ExploreRequest) :
    StateM σ (Response ExplorePayload ExploreInput) := do
  return .ofExcept ⟨r.locator⟩ (← s.runExplore r)

/-- The size of some objects together, added one after another. -/
def totalSize? (files : List ObjectInfo) : Option UInt64 :=
  files.foldlM (fun total file => addWords? total file.size) 0

/-- What a listing says of the objects that it lists. -/
def listPayload (r : ListRequest) (files : List ObjectInfo) : Except Panic ListPayload :=
  match totalSize? files with
  | none => .error .overflow
  | some total => .ok ⟨r.bucket, r.keyStart, files, files.length, total, sizeText total.toNat⟩

/-- The objects of a bucket and their size. -/
def runList (s : Service σ) (r : ListRequest) : Except Panic (Except Failure ListPayload) :=
  match s.store.list r.bucket (r.keyStart.getD "") with
  | .error failure => .ok (.error failure)
  | .ok files => (listPayload r files).map .ok

/-- Lists the objects of a bucket. -/
def list (s : Service σ) (r : ListRequest) : Except Panic (Response ListPayload ListInput) :=
  (s.runList r).map (.ofExcept ⟨r.bucket, r.keyStart⟩)

/-- Whether a locator stands for something that can be read. -/
def locatorHealth (s : Service σ) (locator : String) : StateM σ LocatorHealth := do
  return ⟨locator, s.store.status locator, ← s.executor.probe locator⟩

/-- Whether the engine can be run, and a locator read if one is given. -/
def health (s : Service σ) (locator? : Option String) : StateM σ HealthReport := do
  let binary ← s.executor.binaryStatus
  let locator ← locator?.mapM s.locatorHealth
  return ⟨binary.accessible && (locator.map (·.probe.reachable)).getD true, binary,
    s.store.credentials, locator⟩

end Service

end Enquiry
