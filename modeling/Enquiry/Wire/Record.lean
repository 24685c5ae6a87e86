import Enquiry.Record.Schema
import Enquiry.Record.Table
import Enquiry.Wire.Decoder

/-!
# Records and schemas as JSON
-/

namespace Enquiry

open Json Wire

def recordsJson (records : List Record) : Value := .array (records.map .object)

instance : Encodes ResultSet where
  json r := .object
    [("records", recordsJson r.records), ("truncated", .bool r.truncated),
      ("skipped_lines", .nat r.skippedLines)]

instance : Decodes ResultSet where
  decoder := struct ["records", "truncated", "skipped_lines"] fun f => do
    some ⟨← f.required "records" (list record), ← f.required "truncated" boolean,
      ← f.defaulted "skipped_lines" natural 0⟩

instance : Encodes Statistics where
  json s := .object
    [("total_records", .nat s.totalRecords), ("truncated", .bool s.truncated),
      ("fields", .strings s.fields), ("field_count", .nat s.fieldCount)]

instance : Decodes Statistics where
  decoder := struct ["total_records", "truncated", "fields", "field_count"] fun f => do
    some ⟨← f.required "total_records" natural, ← f.required "truncated" boolean,
      ← f.required "fields" (list text), ← f.required "field_count" natural⟩

/-! ### Schemas -/

/-- The type with a name. -/
def FieldType.ofName? (name : String) : Option FieldType :=
  FieldType.all.find? fun t => t.name == name

/-- The name of a type, alone or as the only member of an object, with the value `null`. -/
def FieldType.decoder : Decoder FieldType
  | levels + 1, .object [(points, .null)] => (text levels (.string points)).bind ofName?
  | levels, w => (text levels w).bind ofName?

instance : Encodes FieldSchema where
  json s := .object
    [("type", .string s.type.name), ("samples", .strings s.samples),
      ("completeness", .number (.real s.completeness))]

instance : Decodes FieldSchema where
  decoder := struct ["type", "samples", "completeness"] fun f => do
    some ⟨← f.required "type" FieldType.decoder, ← f.required "samples" (list text),
      ← f.required "completeness" double⟩

instance : Encodes FieldQuality where
  json q := .object
    [("completeness", .number (.real q.completeness)),
      ("sample_values", .strings q.sampleValues)]

instance : Decodes FieldQuality where
  decoder := struct ["completeness", "sample_values"] fun f => do
    some ⟨← f.required "completeness" double, ← f.required "sample_values" (list text)⟩

instance : Encodes Quality where
  json
    | .unavailable error => .object [("error", .string error)]
    | .fields qualities => mapJson Encodes.json qualities

/-- The reason why there is no quality: an object with one member `error`, which is a string. -/
def Quality.unavailableDecoder : Decoder Quality :=
  objectOnly (struct ["error"] fun f => (f.required "error" text).map Quality.unavailable)

/-- The reason comes first: an object that can be read as one is not read as a map. -/
def Quality.decoder : Decoder Quality :=
  whole fun levels w =>
    (unavailableDecoder levels w).or ((map Decodes.decoder levels w).map Quality.fields)

instance : Decodes Quality where
  decoder := Quality.decoder

instance : Encodes Analysis where
  json a := .object
    [("schema", mapJson Encodes.json a.schema), ("quality", Encodes.json a.quality)]

instance : Decodes Analysis where
  decoder := struct ["schema", "quality"] fun f => do
    some ⟨← f.required "schema" (map Decodes.decoder), ← f.required "quality" Decodes.decoder⟩

end Enquiry
