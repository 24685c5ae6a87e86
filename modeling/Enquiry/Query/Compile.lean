import Enquiry.Calendar
import Enquiry.Question.Classify
import Enquiry.Text.Word

/-!
# Queries

A question becomes a query: the template of its category, filled with its parts. A question that
is not understood becomes the query that lists the first records. The text of the locator enters
the query as it is.
-/

namespace Enquiry.Query

open Text Question

/-! ### Templates

A template is a text with holes: a name of word characters between braces. `segments` finds the
holes and `fill` puts values into them. The template is read once, so braces in a value are text;
a hole without a value stays as it is, and so does a brace that opens no hole.
-/

inductive Segment where
  | literal (text : List Char)
  | hole (name : List Char)
  deriving DecidableEq, Repr

/-- The segments of a text. With `some name` a brace has been opened and the word characters
`name`, in reverse, have been read since. -/
def segmentsFrom : Option (List Char) → List Char → List Segment
  | none, [] => []
  | some name, [] => [.literal ('{' :: name.reverse)]
  | none, c :: cs =>
      if c = '{' then segmentsFrom (some []) cs else .literal [c] :: segmentsFrom none cs
  | some name, c :: cs =>
      if isWord c then segmentsFrom (some (c :: name)) cs
      else if c = '}' ∧ name ≠ [] then .hole name.reverse :: segmentsFrom none cs
      else if c = '{' then .literal ('{' :: name.reverse) :: segmentsFrom (some []) cs
      else .literal ('{' :: name.reverse ++ [c]) :: segmentsFrom none cs

/-- The literal texts and the holes of a template, in order. -/
def segments (template : List Char) : List Segment := segmentsFrom none template

/-- What a segment becomes. -/
def Segment.fill (value? : List Char → Option (List Char)) : Segment → List Char
  | .literal text => text
  | .hole name => (value? name).getD ('{' :: name ++ ['}'])

/-- The template with values in its holes. -/
def fill (value? : List Char → Option (List Char)) (template : List Char) : List Char :=
  (segments template).flatMap (·.fill value?)

/-! ### Queries of questions -/

/-- What a query is for: its source, the cap of a listing, and the day that relative days are
counted from. -/
structure Setting where
  locator : String
  limit : Nat
  today : Date

/-- The query of a category, with holes for its parts. -/
def template : Category → String
  | .topN =>
      "FROM '{locator}' | SUMMARIZE {function}({metric}) BY {dimension} | ORDER BY {function}({metric}) DESC | HEAD {n}"
  | .timeSeries =>
      "FROM '{locator}' | SUMMARIZE {function}({metric}) BY date_trunc('{unit}', {timestamp_field}) | ORDER BY date_trunc('{unit}', {timestamp_field})"
  | .filtering => "FROM '{locator}' | WHERE {predicate} | {operation}"
  | .aggregation => "FROM '{locator}' | SUMMARIZE {function}({metric}) BY {dimension}"
  | .counting => "FROM '{locator}' | {filter_clause}SUMMARIZE count(){group_by}"

/-- A number as text. -/
def numberText (n : Nat) : String := String.ofList (Text.decimal n)

/-- The stage that keeps the records of one day. -/
def dayClause (day : Date) : String :=
  "WHERE date(" ++ timestampField ++ ") = '" ++ day.text ++ "' | "

/-- The stage that keeps the records of a window. The first day of the calendar is its own
yesterday. -/
def windowClause (today : Date) : Window → String
  | .today => dayClause today
  | .yesterday => dayClause (today.previous?.getD today)
  | .last24Hours => "WHERE " ++ timestampField ++ " > now() - interval '24 hours' | "

/-- The stage at the end of a filtering query. -/
def operationClause (limit : Nat) : Operation → String
  | .count => "SUMMARIZE count()"
  | .list => "HEAD " ++ numberText limit

/-- The values of the holes, by their names. -/
def values (setting : Setting) : Intent → List (String × String)
  | .topN n dimension metric function =>
      [("locator", setting.locator), ("function", function.name), ("metric", metric),
        ("dimension", dimension), ("n", numberText n)]
  | .timeSeries metric unit timestampField function =>
      [("locator", setting.locator), ("function", function.name), ("metric", metric),
        ("unit", unit.name), ("timestamp_field", timestampField)]
  | .filtering operation _ predicate =>
      [("locator", setting.locator), ("predicate", predicate),
        ("operation", operationClause setting.limit operation)]
  | .aggregation metric dimension function =>
      [("locator", setting.locator), ("function", function.name), ("metric", metric),
        ("dimension", dimension)]
  | .counting window groupBy =>
      [("locator", setting.locator),
        ("filter_clause", (window.map (windowClause setting.today)).getD ""),
        ("group_by", (groupBy.map (" BY " ++ ·)).getD "")]

/-- The value of the hole with a name. -/
def value? (setting : Setting) (intent : Intent) (name : List Char) : Option (List Char) :=
  ((values setting intent).lookup (String.ofList name)).map String.toList

/-- The query of an intent. -/
def ofIntent (setting : Setting) (intent : Intent) : String :=
  String.ofList (fill (value? setting intent) (template intent.category).toList)

/-- The query that lists the first records. -/
def listing (locator : String) (limit : Nat) : String :=
  "FROM '" ++ locator ++ "' | HEAD " ++ numberText limit

/-- The query of a question. -/
def compile (setting : Setting) (question : String) : String :=
  match intent? question with
  | some intent => ofIntent setting intent
  | none => listing setting.locator setting.limit

end Enquiry.Query
