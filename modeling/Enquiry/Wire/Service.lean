import Enquiry.Service.Response
import Enquiry.Wire.Decoder
import Enquiry.Wire.Record

/-!
# Requests and responses as JSON

A response has a member `status`. A success has the members of its payload beside it; an error has
a message and the members of what was asked.
-/

namespace Enquiry

open Json Wire

/-! ### Settings and the state of the engine -/

instance : Encodes BinaryStatus where
  json b := .object <|
    ("binary_path", .string b.path) :: ("accessible", .bool b.accessible) ::
      (ifSome "version" b.version ++ ifSome "error" b.error)

instance : Decodes BinaryStatus where
  decoder := struct ["binary_path", "accessible", "version", "error"] fun f => do
    some ⟨← f.required "binary_path" text, ← f.required "accessible" boolean,
      ← f.optional "version" text, ← f.optional "error" text⟩

instance : Encodes ProbeOutcome where
  json p := .object (("reachable", .bool p.reachable) :: ifSome "error" p.error)

instance : Decodes ProbeOutcome where
  decoder := struct ["reachable", "error"] fun f => do
    some ⟨← f.required "reachable" boolean, ← f.optional "error" text⟩

instance : Encodes Settings where
  json s := .object
    [("super_binary_path", .string s.binaryPath), ("query_timeout", .nat s.queryTimeout),
      ("max_results", .nat s.maxResults), ("default_region", .string s.defaultRegion)]

instance : Decodes Settings where
  decoder :=
    struct ["super_binary_path", "query_timeout", "max_results", "default_region"] fun f => do
      some ⟨← f.required "super_binary_path" text, ← f.required "query_timeout" natural,
        ← f.required "max_results" natural, ← f.required "default_region" text⟩

/-! ### Answers of a store -/

/-- A number of 64 bits as JSON. -/
def word64Json (n : UInt64) : Value := .nat n.toNat

instance : Encodes ObjectInfo where
  json o := .object
    [("key", .string o.key), ("size", word64Json o.size),
      ("last_modified", .string o.lastModified), ("etag", .string o.etag),
      ("storage_class", .string o.storageClass), ("s3_url", .string o.url)]

instance : Decodes ObjectInfo where
  decoder := struct ["key", "size", "last_modified", "etag", "storage_class", "s3_url"] fun f => do
    some ⟨← f.required "key" text, ← f.required "size" word64,
      ← f.required "last_modified" text, ← f.required "etag" text,
      ← f.required "storage_class" text, ← f.required "s3_url" text⟩

instance : Encodes LocatorStatus where
  json
    | .object bucket key size contentType => .object
        [("type", .string "object"), ("bucket", .string bucket), ("key", .string key),
          ("size", word64Json size), ("content_type", .string contentType)]
    | .collection bucket keyStart samples => .object
        [("type", .string "prefix"), ("bucket", .string bucket), ("prefix", .string keyStart),
          ("sample_objects", .strings samples)]
    | .invalid error => .object [("type", .string "invalid"), ("error", .string error)]

namespace LocatorStatus

def objectDecoder : Decoder LocatorStatus :=
  struct ["bucket", "key", "size", "content_type"] fun f => do
    some (.object (← f.required "bucket" text) (← f.required "key" text)
      (← f.required "size" word64) (← f.required "content_type" text))

def collectionDecoder : Decoder LocatorStatus :=
  struct ["bucket", "prefix", "sample_objects"] fun f => do
    some (.collection (← f.required "bucket" text) (← f.required "prefix" text)
      (← f.required "sample_objects" (list text)))

def invalidDecoder : Decoder LocatorStatus :=
  struct ["error"] fun f => (f.required "error" text).map LocatorStatus.invalid

/-- The decoder of the variant with a name. -/
def branch (name : String) : Decoder LocatorStatus :=
  if name = "object" then objectDecoder
  else if name = "prefix" then collectionDecoder
  else if name = "invalid" then invalidDecoder
  else fun _ _ => none

end LocatorStatus

instance : Decodes LocatorStatus where
  decoder := tagged "type" LocatorStatus.branch

instance : Encodes CredentialStatus where
  json c := .object <|
    ("configured", .bool c.configured) ::
      (ifSome "account_id" c.accountId ++ ifSome "user_arn" c.userArn ++ ifSome "error" c.error)

instance : Decodes CredentialStatus where
  decoder := struct ["configured", "account_id", "user_arn", "error"] fun f => do
    some ⟨← f.required "configured" boolean, ← f.optional "account_id" text,
      ← f.optional "user_arn" text, ← f.optional "error" text⟩

/-! ### Requests -/

instance : Encodes QueryRequest where
  json r := .object
    [("request", .string r.question), ("s3_path", .string r.locator), ("limit", .nat r.limit)]

instance : Decodes QueryRequest where
  decoder := struct ["request", "s3_path", "limit"] fun f => do
    some ⟨← f.required "request" text, ← f.required "s3_path" text,
      ← f.defaulted "limit" natural QueryRequest.defaultLimit⟩

instance : Encodes ExploreRequest where
  json r := .object [("s3_path", .string r.locator), ("sample_size", .nat r.sampleSize)]

instance : Decodes ExploreRequest where
  decoder := struct ["s3_path", "sample_size"] fun f => do
    some ⟨← f.required "s3_path" text,
      ← f.defaulted "sample_size" natural ExploreRequest.defaultSampleSize⟩

instance : Encodes ListRequest where
  json r := .object [("bucket", .string r.bucket), ("prefix", .string? r.keyStart)]

instance : Decodes ListRequest where
  decoder := struct ["bucket", "prefix"] fun f => do
    some ⟨← f.required "bucket" text, ← f.defaulted "prefix" (nullable text) none⟩

/-! ### Payloads -/

/-- Types whose values are the members of a larger object. -/
class EncodesMembers (α : Type) where
  members : α → Members

instance [EncodesMembers α] : Encodes α where
  json a := .object (EncodesMembers.members a)

instance : EncodesMembers QueryPayload where
  members p :=
    [("query", .string p.query), ("results", recordsJson p.results),
      ("record_count", .nat p.recordCount), ("truncated", .bool p.truncated)]

instance : Decodes QueryPayload where
  decoder := struct ["query", "results", "record_count", "truncated"] fun f => do
    some ⟨← f.required "query" text, ← f.required "results" (list record),
      ← f.required "record_count" natural, ← f.required "truncated" boolean⟩

instance : EncodesMembers QueryInput where
  members i := [("query", .string i.question)]

instance : Decodes QueryInput where
  decoder := struct ["query"] fun f => (f.required "query" text).map QueryInput.mk

instance : EncodesMembers ExplorePayload where
  members p :=
    [("s3_path", .string p.locator), ("schema", mapJson Encodes.json p.schema),
      ("sample_records", recordsJson p.sampleRecords), ("data_quality", Encodes.json p.quality),
      ("total_sampled", .nat p.totalSampled)]

instance : EncodesMembers ExploreInput where
  members i := [("s3_path", .string i.locator)]

instance : EncodesMembers ListPayload where
  members p :=
    [("bucket", .string p.bucket), ("prefix", .string? p.keyStart),
      ("files", .array (p.files.map Encodes.json)), ("total_files", .nat p.totalFiles),
      ("total_size", word64Json p.totalSize),
      ("total_size_formatted", .string p.totalSizeText)]

instance : Decodes ListPayload where
  decoder :=
    struct ["bucket", "prefix", "files", "total_files", "total_size",
        "total_size_formatted"] fun f => do
      some ⟨← f.required "bucket" text, ← f.optional "prefix" text,
        ← f.required "files" (list Decodes.decoder), ← f.required "total_files" natural,
        ← f.required "total_size" word64, ← f.required "total_size_formatted" text⟩

instance : EncodesMembers ListInput where
  members i := [("bucket", .string i.bucket), ("prefix", .string? i.keyStart)]

instance : Decodes ListInput where
  decoder := struct ["bucket", "prefix"] fun f => do
    some ⟨← f.required "bucket" text, ← f.optional "prefix" text⟩

/-! ### Responses -/

instance [EncodesMembers α] [EncodesMembers β] : EncodesMembers (Response α β) where
  members
    | .success p => ("status", .string "success") :: EncodesMembers.members p
    | .error message i =>
        ("status", .string "error") :: ("error", .string message) :: EncodesMembers.members i

/-- An error: its message, and the other members as what was asked. -/
def Response.errorDecoder [Decodes β] : Decoder (Response α β)
  | levels, .object members => do
      let (w, rest) ← takeMember? "error" members
      let message ← text levels w
      let input ← Decodes.decoder levels (.object rest)
      some (.error message input)
  | _, _ => none

/-- The decoder of the variant with a name. -/
def Response.branch [Decodes α] [Decodes β] (name : String) : Decoder (Response α β) :=
  if name = "success" then fun levels w => (Decodes.decoder levels w).map Response.success
  else if name = "error" then Response.errorDecoder
  else fun _ _ => none

instance [Decodes α] [Decodes β] : Decodes (Response α β) where
  decoder := tagged "status" Response.branch

/-! ### Health -/

instance : Encodes LocatorHealth where
  json h := .object
    [("s3_path", .string h.locator), ("status", Encodes.json h.status),
      ("probe", Encodes.json h.probe)]

instance : Encodes HealthReport where
  json h := .object <|
    [("healthy", .bool h.healthy), ("binary", Encodes.json h.binary),
        ("credentials", Encodes.json h.credentials)] ++
      (h.locator.map fun l => ("locator", Encodes.json l)).toList

end Enquiry
