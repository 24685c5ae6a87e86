import Enquiry.Text.Blank
import Enquiry.Text.Case
import Enquiry.Text.Search

/-!
# Keywords

What single words of a question decide: the aggregate function, the predicate of a filter, the
operation of a filter and the time window of a count. A keyword counts wherever it stands, also
inside another word (`maximum` holds `max`, `admin` holds `min`), and upper case reads as lower
case. Rules are tried in order and the first that applies decides.
-/

namespace Enquiry.Question

open Text

/-- What is computed over a group of records. -/
inductive AggregateFunction where
  | sum | avg | max | min | count
  deriving DecidableEq, Repr

/-- The name in a query. -/
def AggregateFunction.name : AggregateFunction → String
  | .sum => "sum"
  | .avg => "avg"
  | .max => "max"
  | .min => "min"
  | .count => "count"

/-- A function and the words that ask for it. -/
structure KeywordRule where
  keywords : List String
  function : AggregateFunction

/-- The rules for a whole question that names its aggregation. -/
def phraseRules : List KeywordRule :=
  [⟨["average", "avg", "mean"], .avg⟩,
    ⟨["sum", "total", "revenue", "sales", "amount"], .sum⟩,
    ⟨["max", "maximum", "highest"], .max⟩,
    ⟨["min", "minimum", "lowest"], .min⟩,
    ⟨["count", "number"], .count⟩]

/-- The rules for the name of a measured field. -/
def metricRules : List KeywordRule :=
  [⟨["count", "number", "total_records"], .count⟩,
    ⟨["revenue", "sales", "amount", "total", "sum"], .sum⟩,
    ⟨["average", "avg", "mean"], .avg⟩,
    ⟨["max", "maximum", "highest"], .max⟩,
    ⟨["min", "minimum", "lowest"], .min⟩]

/-- Some keyword of the rule stands in the text. -/
def KeywordRule.applies (rule : KeywordRule) (text : List Char) : Bool :=
  rule.keywords.any fun w => occursIn w.toList text

/-- The function of the first rule that applies, and `sum` when none does. -/
def inferFunction (rules : List KeywordRule) (text : List Char) : AggregateFunction :=
  ((rules.find? (·.applies (lowercase text))).map (·.function)).getD .sum

/-- Words of a condition and the predicates they stand for. -/
def filterRules : List (String × String) :=
  [("error", "status = 'error' OR level = 'error'"),
    ("success", "status = 'success'"),
    ("api", "service LIKE '%api%'")]

/-- The predicate of a condition: that of its first keyword, or the condition itself, trimmed and
in lower case. -/
def filterPredicate (condition : List Char) : List Char :=
  let condition := lowercase (trim condition)
  ((filterRules.find? fun (w, _) => occursIn w.toList condition).map (·.2.toList)).getD condition

/-- What is done with the records that pass a filter. -/
inductive Operation where
  /-- They are counted. -/
  | count
  /-- They are listed. -/
  | list
  deriving DecidableEq, Repr

/-- The operation a clause asks for: counting, unless it speaks of showing or listing and not of
counting. -/
def Operation.ofClause (clause : List Char) : Operation :=
  let clause := lowercase clause
  if occursIn "count".toList clause then .count
  else if occursIn "show".toList clause || occursIn "list".toList clause then .list
  else .count

/-- A time window that ends now. -/
inductive Window where
  | today | yesterday | last24Hours
  deriving DecidableEq, Repr

/-- The phrases that name windows. -/
def windowPhrases : List (String × Window) :=
  [("today", .today), ("yesterday", .yesterday), ("last 24 hours", .last24Hours)]

/-- The first window that the text names. -/
def Window.find? (text : List Char) : Option Window :=
  let text := lowercase text
  (windowPhrases.find? fun (w, _) => occursIn w.toList text).map Prod.snd

end Enquiry.Question
