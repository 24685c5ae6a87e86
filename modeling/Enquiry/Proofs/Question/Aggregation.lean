import Enquiry.Proofs.Question.Classification
import Enquiry.Proofs.Text.Case

/-!
# The function of an aggregation

Every phrasing of an aggregation begins with a word for an average or for a sum, and lower case
leaves such a word where it stands (`exists_word_of_occursIn`).  The rules for averages and for
sums are the first two of `phraseRules`, so one of them decides, whatever else the phrase speaks
of (`exists_rule_of_occursIn`).

**An aggregation is an average when its phrase has a word for one anywhere, and a sum otherwise**
(`function_of_aggregation`).
-/

namespace Enquiry.Question

open Text

variable {phrase text : List Char} {rule : KeywordRule} {rules : List KeywordRule}
  {metric dimension : String} {function : AggregateFunction}

/-! ### Rules -/

theorem KeywordRule.applies_iff :
    rule.applies text = true ↔ ∃ w ∈ rule.keywords, w.toList <:+: text := by
  simp only [KeywordRule.applies, List.any_eq_true, occursIn_iff]

/-- The first rule that applies gives the function. -/
theorem inferFunction_of_find? (h : rules.find? (·.applies (lowercase text)) = some rule) :
    inferFunction rules text = rule.function := by
  rw [inferFunction, h]
  rfl

/-- The words for an average. -/
def averageRule : KeywordRule := ⟨["average", "avg", "mean"], .avg⟩

/-- The words for a sum. -/
def sumRule : KeywordRule := ⟨["sum", "total", "revenue", "sales", "amount"], .sum⟩

theorem exists_phraseRules_eq : ∃ others, phraseRules = averageRule :: sumRule :: others :=
  ⟨_, rfl⟩

/-! ### Words of the phrasings -/

/-- Where a phrasing of an aggregation occurs, its word stands in the phrase, in lower case too. -/
theorem exists_word_of_occursIn (h : Category.aggregation.OccursIn phrase) :
    ∃ w ∈ ["average", "avg", "mean", "sum", "total"], w.toList <:+: lowercase phrase := by
  have plain : ∀ w ∈ ["average", "avg", "mean", "sum", "total"],
      (w.toList.all fun c => decide (c.toNat < 0x80 ∧ isAsciiUpper c = false)) = true := by decide
  obtain ⟨pattern, mem, occurs⟩ := h
  obtain ⟨w, listed, rfl⟩ := List.mem_map.mp mem
  have stands : w.toList <:+: phrase := occurs.infix_of_word List.mem_cons_self
  have kept : ∀ c ∈ w.toList, IsLowered c := fun c inside => by
    have small : c.toNat < 0x80 ∧ isAsciiUpper c = false :=
      of_decide_eq_true (List.all_eq_true.mp (plain w listed) c inside)
    exact isLowered_of_isPlain small
  exact ⟨w, listed, isInfix_lowercase kept stands⟩

/-- The phrase has a word for an average somewhere, in capitals or not. -/
def NamesAverage (phrase : List Char) : Prop :=
  ∃ w ∈ ["average", "avg", "mean"], w.toList <:+: lowercase phrase

/-- Where a phrasing of an aggregation occurs, one of the first two rules decides. -/
theorem exists_rule_of_occursIn (h : Category.aggregation.OccursIn phrase) :
    ∃ rule, phraseRules.find? (·.applies (lowercase phrase)) = some rule ∧
      (NamesAverage phrase → rule.function = .avg) ∧
      (¬ NamesAverage phrase → rule.function = .sum) := by
  obtain ⟨others, rules⟩ := exists_phraseRules_eq
  by_cases average : NamesAverage phrase
  · refine ⟨averageRule, ?_, fun _ => rfl, fun none => absurd average none⟩
    have applies : averageRule.applies (lowercase phrase) = true :=
      KeywordRule.applies_iff.mpr average
    rw [rules, List.find?_cons, applies]
  · refine ⟨sumRule, ?_, fun some => absurd some average, fun _ => rfl⟩
    obtain ⟨w, listed, stands⟩ := exists_word_of_occursIn h
    -- the word of the phrasing is none for an average
    have sum : w ∈ sumRule.keywords := by
      have either : w ∈ ["average", "avg", "mean"] ++ ["sum", "total"] := listed
      rcases List.mem_append.mp either with word | word
      · exact absurd ⟨w, word, stands⟩ average
      · exact List.mem_append_left ["revenue", "sales", "amount"] word
    have skipped : averageRule.applies (lowercase phrase) = false := by
      rw [← Bool.not_eq_true]
      exact fun applies => average (KeywordRule.applies_iff.mp applies)
    have applies : sumRule.applies (lowercase phrase) = true :=
      KeywordRule.applies_iff.mpr ⟨w, sum, stands⟩
    rw [rules, List.find?_cons, skipped, List.find?_cons, applies]

/-! ### Aggregations -/

/-- A phrase that is found to be an aggregation has a phrasing of one in it. -/
theorem occursIn_of_aggregation
    (h : classify phrase = .matched (.aggregation metric dimension function)) :
    Category.aggregation.OccursIn phrase := by
  obtain ⟨pattern, mem, captures, found, -⟩ := exists_captures_of_matched h
  exact ⟨pattern, mem, Pattern.find?_isSome_iff.mp (Option.isSome_of_eq_some found)⟩

/-- The function is the one of the rules for whole phrases. -/
theorem function_eq_inferFunction
    (h : classify phrase = .matched (.aggregation metric dimension function)) :
    function = inferFunction phraseRules phrase := by
  obtain ⟨pattern, -, captures, -, made⟩ := exists_captures_of_matched h
  obtain ⟨metric', dimension', -, -, same⟩ := Category.intent?_aggregation made
  exact (Intent.aggregation.inj same).2.2

/-- **The function of an aggregation.**  It is the average when the phrase has a word for one
anywhere in it, in capitals or not, and the sum otherwise, never the greatest, the least or the
number, whatever words for these there are.  A rule has decided it, and not the lack of any. -/
theorem function_of_aggregation
    (h : classify phrase = .matched (.aggregation metric dimension function)) :
    (NamesAverage phrase → function = .avg) ∧ (¬ NamesAverage phrase → function = .sum) ∧
      function ∉ [.max, .min, .count] ∧
      ∃ rule, phraseRules.find? (·.applies (lowercase phrase)) = some rule ∧
        rule.function = function := by
  obtain ⟨rule, first, average, sum⟩ := exists_rule_of_occursIn (occursIn_of_aggregation h)
  have decided : function = rule.function :=
    (function_eq_inferFunction h).trans (inferFunction_of_find? first)
  rw [← decided] at average sum
  refine ⟨average, sum, ?_, rule, first, decided.symm⟩
  by_cases named : NamesAverage phrase
  · rw [average named]
    decide
  · rw [sum named]
    decide

/-- A phrase for a total with a word for an average in capitals, and words of all other rules. -/
def averagedTotal : List Char := "total AVG of the lowest count by number of max".toList

theorem function_of_aggregation_averagedTotal :
    classify averagedTotal = .matched (.aggregation "avg_lowest_count" "number_max" .avg) ∧
    NamesAverage averagedTotal ∧
    ∃ rule, phraseRules.find? (·.applies (lowercase averagedTotal)) = some rule ∧
      rule.function = .avg := by
  have found : classify averagedTotal =
      .matched (.aggregation "avg_lowest_count" "number_max" .avg) := by decide +kernel
  have named : NamesAverage averagedTotal := by
    by_contra none
    cases (function_of_aggregation found).2.1 none
  exact ⟨found, named, (function_of_aggregation found).2.2.2⟩

end Enquiry.Question
