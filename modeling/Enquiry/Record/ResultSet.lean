import Enquiry.Json.Value

/-!
# Records

A record is a JSON object, with its members in the order in which the engine wrote them. A result
set holds the records of one run.
-/

namespace Enquiry

/-- One decoded line of output. -/
abbrev Record := Json.Members

/-- The records of a run, capped. -/
structure ResultSet where
  records : List Record
  /-- The cap was reached while output was left. -/
  truncated : Bool
  /-- How many lines were dropped because they held no object. -/
  skippedLines : Nat

namespace ResultSet

/-- The number of records. -/
def size (r : ResultSet) : Nat := r.records.length

end ResultSet

end Enquiry
