import Enquiry.Json.Printer
import Enquiry.Json.Value
import Enquiry.Record.ResultSet
import Enquiry.SortedMap
import Enquiry.Text.Digit

/-!
# Schemas

A few records tell what fields there are. A field has the type of the first value seen for it, up
to three samples of its values that are not null, no two of them the same, and a completeness: the
share of the records with the field in which it is not null. Only the first ten records count.
-/

namespace Enquiry

open Text Json Number

/-! ### Types of fields

The type of a value. A string is looked at more closely: it is a timestamp or a date when it
begins like one. Only the beginning has to match, and the digits may be of any script.
-/

inductive FieldType where
  | null | boolean | integer | float | string | timestamp | date | array | object | unknown
  deriving DecidableEq, Repr

/-- The name in a schema. -/
def FieldType.name : FieldType → String
  | .null => "null"
  | .boolean => "boolean"
  | .integer => "integer"
  | .float => "float"
  | .string => "string"
  | .timestamp => "timestamp"
  | .date => "date"
  | .array => "array"
  | .object => "object"
  | .unknown => "unknown"

def FieldType.all : List FieldType :=
  [.null, .boolean, .integer, .float, .string, .timestamp, .date, .array, .object, .unknown]

/-- The text begins like the shape, where `0` stands for any digit and every other character for
itself. -/
def beginsLike : List Char → List Char → Bool
  | [], _ => true
  | _ :: _, [] => false
  | s :: shape, c :: text => (if s = '0' then isDigit c else c == s) && beginsLike shape text

def timestampShapes : List String := ["0000-00-00T00:00:00", "0000-00-00 00:00:00"]

def dateShapes : List String := ["0000-00-00", "00/00/0000"]

/-- The type of a string. -/
def FieldType.ofString (s : String) : FieldType :=
  let looksLike (shapes : List String) := shapes.any fun shape => beginsLike shape.toList s.toList
  if looksLike timestampShapes then .timestamp
  else if looksLike dateShapes then .date
  else .string

/-- The type of a value. -/
def FieldType.ofValue : Value → FieldType
  | .null => .null
  | .bool _ => .boolean
  | .number (.integer _) => .integer
  | .number (.real _) => .float
  | .string s => .ofString s
  | .array _ => .array
  | .object _ => .object

/-! ### What the fields are -/

/-- How many records are looked at. -/
def sampledRecords : Nat := 10

/-- How many samples are kept of a field. -/
def maxSamples : Nat := 3

structure FieldSchema where
  type : FieldType
  samples : List String
  completeness : Binary64

structure FieldQuality where
  completeness : Binary64
  sampleValues : List String

/-- The quality of the fields, or why it is not known. -/
inductive Quality where
  | unavailable (error : String)
  | fields (qualities : SortedMap FieldQuality)

structure Analysis where
  schema : SortedMap FieldSchema
  quality : Quality

/-- What has been seen of a field. -/
structure FieldStats where
  type : FieldType
  samples : List String
  nulls : Nat
  total : Nat

/-- A value as a sample: a string as it is, everything else as JSON. -/
def sampleText : Value → String
  | .string s => s
  | v => v.compact

namespace FieldStats

/-- Nothing has been seen but the type of the first value. -/
def start (first : Value) : FieldStats := ⟨.ofValue first, [], 0, 0⟩

/-- A sample more, unless there are enough or it is among them. -/
def addSample (samples : List String) (sample : String) : List String :=
  if samples.length < maxSamples ∧ sample ∉ samples then samples ++ [sample] else samples

/-- Sees a value. -/
def observe (stats : FieldStats) (v : Value) : FieldStats :=
  if v.isNull then { stats with nulls := stats.nulls + 1, total := stats.total + 1 }
  else
    { stats with samples := addSample stats.samples (sampleText v), total := stats.total + 1 }

/-- The share of the values that are not null, as one division. -/
def completeness (stats : FieldStats) : Binary64 :=
  (Binary64.ofRatio? (stats.total - stats.nulls) (max stats.total 1)).getD .zero

def schema (stats : FieldStats) : FieldSchema := ⟨stats.type, stats.samples, stats.completeness⟩

def quality (stats : FieldStats) : FieldQuality := ⟨stats.completeness, stats.samples⟩

end FieldStats

/-- What has been seen of each field. -/
abbrev Survey := SortedMap FieldStats

/-- Sees one member of a record. -/
def Survey.observe (survey : Survey) (member : String × Value) : Survey :=
  survey.modify member.1 fun stats? =>
    (stats?.getD (.start member.2)).observe member.2

/-- Sees all members of some records. -/
def Survey.ofRecords (records : List Record) : Survey :=
  records.foldl (fun survey record => record.foldl Survey.observe survey) SortedMap.empty

namespace Analysis

/-- Why there is no analysis. -/
def noSampleData : String := "No valid sample data provided"

/-- The analysis of no sample. -/
def unavailable : Analysis := ⟨.empty, .unavailable noSampleData⟩

/-- The analysis of what has been seen. -/
def ofSurvey (survey : Survey) : Analysis :=
  ⟨survey.mapValues FieldStats.schema, .fields (survey.mapValues FieldStats.quality)⟩

/-- The analysis of some records. -/
def ofRecords : List Record → Analysis
  | [] => unavailable
  | records => ofSurvey (Survey.ofRecords (records.take sampledRecords))

/-- The analysis of a JSON sample. Only an array with elements can be analysed; those of them that
are not objects are left out. -/
def ofValue : Value → Analysis
  | .array (item :: items) =>
      ofSurvey (Survey.ofRecords (((item :: items).take sampledRecords).filterMap (·.members?)))
  | _ => unavailable

end Analysis

end Enquiry
