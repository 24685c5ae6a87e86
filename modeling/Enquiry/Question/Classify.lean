import Enquiry.Number.Word
import Enquiry.Pattern
import Enquiry.Question.Field
import Enquiry.Question.Intent
import Enquiry.Text.Digit

/-!
# Classification

The first category with a phrasing that occurs in a phrase decides; of its phrasings the first
that occurs gives the parts. When a part that the category needs is missing or empty, the phrase
is incomplete: no later category is tried.
-/

namespace Enquiry.Question

open Text Number

/-! ### Phrasings

The surface forms of each category of questions, as patterns over a trimmed lowercase phrase, in
the order in which they are tried.
-/

/-- The word itself. -/
def say (w : String) : Piece := .word w.toList

/-- Blanks between words, as many as there are. -/
def gap : Piece := .run .blank .longest none

/-- A number. -/
def number (slot : Slot) : Piece := .run .digit .longest (some slot)

/-- Some text on one line, as little as possible. -/
def some? (slot : Slot) : Piece := .run .inline .shortest (some slot)

/-- The text up to the end of the line, less what must follow. -/
def upToEnd (slot : Slot) : Piece := .run .inline .longest (some slot)

/-- One of some words. -/
def oneOf (slot : Slot) (ws : List String) : Piece := .choice slot (ws.map String.toList)

/-- A word for an aggregation in front of its metric and its dimension. -/
def aggregationBy (w : String) : Pattern :=
  [say w, gap, some? .metric, gap, say "by", gap, upToEnd .dimension]

/-- The phrasings of a category. -/
def Category.patterns : Category → List Pattern
  | .topN =>
      [[say "top", gap, number .count, gap, some? .dimension, gap, say "by", gap,
          upToEnd .metric],
        [number .count, gap, say "highest", gap, some? .dimension, gap, say "by", gap,
          upToEnd .metric],
        [say "best", gap, number .count, gap, some? .dimension, gap, say "by", gap,
          upToEnd .metric]]
  | .timeSeries =>
      [[some? .metric, gap, say "by", gap,
          oneOf .unit ["day", "week", "month", "year", "hour"], .optional 's', .edge],
        [oneOf .unit ["daily", "weekly", "monthly", "yearly", "hourly"], gap, upToEnd .metric],
        [some? .metric, gap, say "over", gap, say "time"]]
  | .filtering =>
      [[some? .operation, gap, say "from", gap, some? .context, gap, say "where", gap,
          upToEnd .condition],
        [some? .operation, gap, say "where", gap, upToEnd .condition],
        [some? .operation, gap, say "for", gap, upToEnd .condition]]
  | .aggregation => ["average", "avg", "mean", "sum", "total"].map aggregationBy
  | .counting =>
      [[say "how", gap, say "many", gap, upToEnd .entity],
        [say "count", gap, upToEnd .entity],
        [say "number", gap, say "of", gap, upToEnd .entity]]

/-- The grouping clause at the end of what is counted. -/
def groupClause : Pattern := [.edge, say "by", gap, upToEnd .field, .finish]

/-! ### What a phrase is -/

/-- What a phrase was found to be. -/
inductive Classification where
  | matched (intent : Intent)
  /-- A phrasing of the category occurs, but lacks a part that the category needs. -/
  | incomplete (category : Category)
  | unmatched
  deriving DecidableEq, Repr

/-- The largest count a question may ask for. -/
def maxCount : Nat := wordBound - 1

/-- The count that a run of digits means; digits of other scripts than ASCII mean none. -/
def countOf? (digits : List Char) : Option Nat :=
  (number? digits).bind fun n => if n ≤ maxCount then some n else none

/-- The field name that a part of a phrase means, unless it is empty. -/
def fieldOf? (part : List Char) : Option String :=
  let name := fieldChars part
  if name.isEmpty then none else some (String.ofList name)

/-- The grouping field of what is counted. -/
def groupOf? (entity : List Char) : Option String := do
  let captures ← groupClause.find? entity
  fieldOf? (← captures.get? .field)

/-- The intent of a category with the parts of a phrase. -/
def Category.intent? (category : Category) (captures : Captures) (phrase : List Char) :
    Option Intent :=
  let part := captures.get?
  let field (slot : Slot) := (part slot).bind fieldOf?
  match category with
  | .topN => do
      let n ← (part .count).bind countOf?
      let dimension ← field .dimension
      let metric ← field .metric
      some (.topN n dimension metric (inferFunction metricRules metric.toList))
  | .timeSeries => do
      let unit ← (part .unit).bind TimeUnit.ofWord?
      let metric ← field .metric
      some (.timeSeries metric unit timestampField (inferFunction metricRules metric.toList))
  | .filtering => do
      let operation := Operation.ofClause (← part .operation)
      let context := trim (← part .context)
      let predicate := filterPredicate (← part .condition)
      if predicate.isEmpty then none
      else some (.filtering operation (String.ofList context) (String.ofList predicate))
  | .aggregation => do
      let metric ← field .metric
      let dimension ← field .dimension
      some (.aggregation metric dimension (inferFunction phraseRules phrase))
  | .counting => do
      let entity ← part .entity
      some (.counting (Window.find? entity) (groupOf? entity))

/-- The parts of a phrase in the first phrasing of the category that occurs in it. -/
def Category.captures? (category : Category) (phrase : List Char) : Option Captures :=
  category.patterns.findSome? (·.find? phrase)

/-- What the first category that occurs in a phrase makes of it. The phrase is taken as it is. -/
def classify (phrase : List Char) : Classification :=
  (Category.all.findSome? fun category =>
    (category.captures? phrase).map fun captures =>
      match category.intent? captures phrase with
      | some intent => Classification.matched intent
      | none => .incomplete category).getD .unmatched

def Classification.intent? : Classification → Option Intent
  | .matched intent => some intent
  | .incomplete _ => none
  | .unmatched => none

/-- The phrase of a question: trimmed and in lower case. -/
def phraseOf (question : String) : List Char := lowercase (trim question.toList)

/-- The intent of a question, if it is understood. -/
def intent? (question : String) : Option Intent := (classify (phraseOf question)).intent?

end Enquiry.Question
