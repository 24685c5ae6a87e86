import Enquiry.Json.Value
import Enquiry.Question.Classify
import Enquiry.Wire.Decoder

/-!
# Intents as JSON
-/

namespace Enquiry.Question

open Json Wire

/-- The name of a category. -/
def Category.name : Category → String
  | .topN => "top_n"
  | .timeSeries => "time_series"
  | .filtering => "filtering"
  | .aggregation => "aggregation"
  | .counting => "counting"

/-- The name of an operation. -/
def Operation.name : Operation → String
  | .count => "count"
  | .list => "show"

/-- The name of a window. -/
def Window.name : Window → String
  | .today => "today"
  | .yesterday => "yesterday"
  | .last24Hours => "last24_hours"

/-- The parts of an intent. -/
def Intent.members : Intent → Members
  | .topN n dimension metric function =>
      [("n", .nat n), ("dimension", .string dimension), ("metric", .string metric),
        ("function", .string function.name)]
  | .timeSeries metric unit timestampField function =>
      [("metric", .string metric), ("unit", .string unit.name),
        ("timestamp_field", .string timestampField), ("function", .string function.name)]
  | .filtering operation context predicate =>
      [("operation", .string operation.name), ("context", .string context),
        ("predicate", .string predicate)]
  | .aggregation metric dimension function =>
      [("metric", .string metric), ("dimension", .string dimension),
        ("function", .string function.name)]
  | .counting window groupBy =>
      [("window", .string? (window.map Window.name)), ("group_by", .string? groupBy)]

instance : Encodes Intent where
  json intent := .object (("intent", .string intent.category.name) :: intent.members)

end Enquiry.Question
