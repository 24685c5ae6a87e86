import Enquiry.Question.Keyword

/-!
# Intents

What a question asks for, in one of five categories, with the parts it names.
-/

namespace Enquiry.Question

/-- The length of a time bucket. -/
inductive TimeUnit where
  | hour | day | week | month | year
  deriving DecidableEq, Repr

/-- The name in a query. -/
def TimeUnit.name : TimeUnit → String
  | .hour => "hour"
  | .day => "day"
  | .week => "week"
  | .month => "month"
  | .year => "year"

/-- The adverb of a unit. -/
def TimeUnit.adverb : TimeUnit → String
  | .hour => "hourly"
  | .day => "daily"
  | .week => "weekly"
  | .month => "monthly"
  | .year => "yearly"

def TimeUnit.all : List TimeUnit := [.hour, .day, .week, .month, .year]

/-- The unit that a word names, as a noun or as an adverb. -/
def TimeUnit.ofWord? (word : List Char) : Option TimeUnit :=
  TimeUnit.all.find? fun u => word == u.name.toList || word == u.adverb.toList

/-- The kinds of questions. -/
inductive Category where
  | topN | timeSeries | filtering | aggregation | counting
  deriving DecidableEq, Repr

/-- The categories in the order in which they are tried. -/
def Category.all : List Category := [.topN, .timeSeries, .filtering, .aggregation, .counting]

/-- The column that holds the time of a record. -/
def timestampField : String := "timestamp"

/-- A question that has been understood. -/
inductive Intent where
  /-- The `n` greatest groups of a dimension by a metric. -/
  | topN (n : Nat) (dimension metric : String) (function : AggregateFunction)
  /-- A metric over time. -/
  | timeSeries (metric : String) (unit : TimeUnit) (timestampField : String)
      (function : AggregateFunction)
  /-- The records that satisfy a predicate, listed or counted. -/
  | filtering (operation : Operation) (context predicate : String)
  /-- A metric for each group of a dimension. -/
  | aggregation (metric dimension : String) (function : AggregateFunction)
  /-- How many records there are, in a window and for each group. -/
  | counting (window : Option Window) (groupBy : Option String)
  deriving DecidableEq, Repr

def Intent.category : Intent → Category
  | .topN .. => .topN
  | .timeSeries .. => .timeSeries
  | .filtering .. => .filtering
  | .aggregation .. => .aggregation
  | .counting .. => .counting

end Enquiry.Question
