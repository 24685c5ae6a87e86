import Enquiry.Json.Printer
import Enquiry.Record.ResultSet
import Enquiry.Text.Search

/-!
# Tables

A result set as a table of fixed columns: a header with the fields of the first record, a line
below it, and a row for each of the first twenty records. A cell has fifteen characters: a shorter
text is padded, a longer one shows its first twelve and `...`. A header is padded and never cut.
-/

namespace Enquiry

open Text Json

namespace Table

def columnWidth : Nat := 15

def clippedWidth : Nat := 12

def maxRows : Nat := 20

/-- Between two columns. -/
def separator : List Char := " | ".toList

/-- Blanks up to the width of a column. -/
def pad (text : List Char) : List Char :=
  text ++ List.replicate (columnWidth - text.length) ' '

/-- A text too long for a column, shortened. -/
def clip (text : List Char) : List Char :=
  if columnWidth < text.length then text.take clippedWidth ++ "...".toList else text

/-- The text of a value: a string as it is, everything else as JSON. -/
def cellText : Value → List Char
  | .string s => s.toList
  | v => v.compactChars

/-- The cell of a field in a record; blank when the record lacks the field. -/
def cell (record : Record) (field : String) : List Char :=
  pad (clip ((record.lookup field).elim [] cellText))

/-- The fields of a record, in order. -/
def fieldsOf (record : Record) : List String := record.map Prod.fst

def headerRow (fields : List String) : List Char :=
  List.intercalate separator (fields.map fun field => pad field.toList)

def row (fields : List String) (record : Record) : List Char :=
  List.intercalate separator (fields.map (cell record))

/-- Says how many records have no row. -/
def overflowLine (n : Nat) : List Char :=
  "... and ".toList ++ decimal n ++ " more rows".toList

/-- The lines of the table of some records, whose columns are given. -/
def lines (fields : List String) (records : List Record) : List (List Char) :=
  let header := headerRow fields
  header :: List.replicate header.length '-' ::
    ((records.take maxRows).map (row fields) ++
      if maxRows < records.length then [overflowLine (records.length - maxRows)] else [])

/-- The table of a result set. -/
def chars (result : ResultSet) : List Char :=
  match result.records with
  | [] => "No results found.".toList
  | first :: _ => List.intercalate ['\n'] (lines (fieldsOf first) result.records)

/-- The table of a result set, as a string. -/
def text (result : ResultSet) : String := String.ofList (chars result)

end Table

/-- The size of a result set and the fields of its first record. -/
structure Statistics where
  totalRecords : Nat
  truncated : Bool
  fields : List String
  fieldCount : Nat
  deriving DecidableEq, Repr

/-- The statistics of a result set. -/
def ResultSet.statistics (result : ResultSet) : Statistics :=
  let fields := (result.records.head?.map Table.fieldsOf).getD []
  ⟨result.size, result.truncated, fields, fields.length⟩

end Enquiry
