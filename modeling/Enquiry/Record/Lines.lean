import Enquiry.Json.Reader
import Enquiry.Record.ResultSet
import Enquiry.Text.Blank
import Enquiry.Text.Search

/-!
# Records from lines

Output holds one JSON object per line. A `Collector` takes lines one by one: a blank line changes
nothing, an object is kept, and any other line is skipped with a warning. Once the cap is reached,
the next line that is not blank marks the result as truncated and asks for no more.
-/

namespace Enquiry

open Text Json

/-- The byte that ends a line. -/
def lineFeed : UInt8 := 0x0A

/-- What a line that is not blank holds. -/
inductive LineContent where
  | object (record : Record)
  | otherJson
  | notJson

/-- Reads a trimmed line. -/
def LineContent.ofBytes (line : List UInt8) : LineContent :=
  match Value.ofBytes? line with
  | some (.object record) => .object record
  | some _ => .otherJson
  | none => .notJson

/-- How many characters of a line a warning shows. -/
def previewLength : Nat := 100

/-- The line as text, shortened with `...` when it is longer than a preview. -/
def preview (line : List UInt8) : String :=
  let text := Utf8.decodeLossy line
  String.ofList <|
    if previewLength < text.length then text.take previewLength ++ "...".toList else text

inductive Warning where
  | truncated
  | notAnObject (line : String)
  | notJson (line : String)
  deriving DecidableEq, Repr

/-- The wording of a warning. -/
def Warning.message : Warning → String
  | .truncated => "Result set truncated"
  | .notAnObject _ => "Skipping result line that is not a JSON object"
  | .notJson _ => "Failed to parse line as JSON"

/-- The line that a warning shows. -/
def Warning.line? : Warning → Option String
  | .truncated => none
  | .notAnObject line => some line
  | .notJson line => some line

/-- Whether more lines are wanted. -/
inductive Flow where
  | more | stop
  deriving DecidableEq, Repr

/-- The lines taken so far. The newest records and warnings stand first. -/
structure Collector where
  cap : Nat
  newest : List Record
  size : Nat
  truncated : Bool
  skippedLines : Nat
  latestWarnings : List Warning

namespace Collector

/-- No line has been taken. -/
def start (cap : Nat) : Collector := ⟨cap, [], 0, false, 0, []⟩

/-- The records kept so far, in order. -/
def records (c : Collector) : List Record := c.newest.reverse

/-- The warnings given so far, in order. -/
def warnings (c : Collector) : List Warning := c.latestWarnings.reverse

/-- Takes a trimmed line that is not blank while the cap is not reached. -/
def keep (c : Collector) (line : List UInt8) : Collector :=
  match LineContent.ofBytes line with
  | .object record => { c with newest := record :: c.newest, size := c.size + 1 }
  | .otherJson =>
      { c with
        skippedLines := c.skippedLines + 1
        latestWarnings := .notAnObject (preview line) :: c.latestWarnings }
  | .notJson =>
      { c with
        skippedLines := c.skippedLines + 1
        latestWarnings := .notJson (preview line) :: c.latestWarnings }

/-- Takes a line. -/
def push (c : Collector) (line : List UInt8) : Flow × Collector :=
  let line := trimWith isAsciiBlank line
  if line.isEmpty then (.more, c)
  else if c.cap ≤ c.size then
    (.stop, { c with truncated := true, latestWarnings := .truncated :: c.latestWarnings })
  else (.more, c.keep line)

/-- Takes lines until no more are wanted. -/
def pushAll (c : Collector) : List (List UInt8) → Collector
  | [] => c
  | line :: lines =>
      match c.push line with
      | (.more, c) => c.pushAll lines
      | (.stop, c) => c

/-- The result of the lines taken. -/
def finish (c : Collector) : ResultSet := ⟨c.records, c.truncated, c.skippedLines⟩

end Collector

/-- What the lines of a whole output make of a collector. -/
def collectOutput (output : List UInt8) (cap : Nat) : Collector :=
  (Collector.start cap).pushAll (List.splitOn lineFeed output)

/-- The records of a whole output. -/
def ResultSet.ofOutput (output : List UInt8) (cap : Nat) : ResultSet :=
  (collectOutput output cap).finish

end Enquiry
