import Enquiry.Question.Classify
import Enquiry.Proofs.Pattern.Language

/-!
# What a phrase is found to be

A category occurs in a phrase when one of its patterns does (`Category.OccursIn`), and its parts
are found exactly then (`Category.captures?_isSome_iff`).

**The first category that occurs decides** (`category?_classify`), whether or not it can make an
intent of the parts.  `exists_captures_of_matched` says where an intent comes from: it is what its
category makes of the captures of one of its patterns.  What each category makes of captures is
said once, by the lemmas `Category.intent?_topN` and so on.
-/

namespace Enquiry.Question

open Text

/-! ### Categories that occur -/

/-- Some phrasing of the category occurs in the phrase. -/
def Category.OccursIn (category : Category) (phrase : List Char) : Prop :=
  ∃ pattern ∈ category.patterns, pattern.OccursIn phrase

theorem Category.captures?_isSome_iff {category : Category} {phrase : List Char} :
    (category.captures? phrase).isSome ↔ category.OccursIn phrase := by
  simp only [Category.captures?, List.findSome?_isSome_iff, Pattern.find?_isSome_iff,
    Category.OccursIn]

/-- The place of a category in the order in which categories are tried. -/
def Category.rank : Category → Nat
  | .topN => 0
  | .timeSeries => 1
  | .filtering => 2
  | .aggregation => 3
  | .counting => 4

theorem Category.rank_injective {j k : Category} (h : j.rank = k.rank) : j = k := by
  cases j <;> cases k <;> first | rfl | cases h

theorem Category.mem_all (k : Category) : k ∈ Category.all := by cases k <;> decide

theorem Category.pairwise_all : Category.all.Pairwise (·.rank < ·.rank) := by decide

/-- The first category with a property is the one of least rank. -/
theorem Category.find?_all_eq_some_iff {p : Category → Bool} {k : Category} :
    Category.all.find? p = some k ↔ p k = true ∧ ∀ j, j.rank < k.rank → p j = false := by
  have least : ∀ {k}, Category.all.find? p = some k →
      p k = true ∧ ∀ j, j.rank < k.rank → p j = false := fun {k} h => by
    obtain ⟨holds, before, behind, split, fails⟩ := List.find?_eq_some_iff_append.mp h
    refine ⟨holds, fun j earlier => ?_⟩
    have order := Category.pairwise_all
    rw [split, List.pairwise_append, List.pairwise_cons] at order
    have mem := Category.mem_all j
    rw [split, List.mem_append, List.mem_cons] at mem
    rcases mem with mem | rfl | mem
    · simpa using fails j mem
    · exact absurd earlier (Nat.lt_irrefl _)
    · exact absurd earlier (Nat.lt_asymm (order.2.1.1 j mem))
  refine ⟨least, fun ⟨holds, fails⟩ => ?_⟩
  have found : (Category.all.find? p).isSome :=
    List.find?_isSome.mpr ⟨k, Category.mem_all k, holds⟩
  obtain ⟨k', found⟩ := Option.isSome_iff_exists.mp found
  obtain ⟨holds', fails'⟩ := least found
  rcases Nat.lt_trichotomy k.rank k'.rank with lt | eq | gt
  · rw [fails' k lt] at holds; cases holds
  · rw [found, Category.rank_injective eq]
  · rw [fails k' gt] at holds'; cases holds'

/-- A phrase without digits asks for no top. -/
theorem not_occursIn_topN {phrase : List Char} (h : ∀ c ∈ phrase, isDigit c = false) :
    ¬ Category.topN.OccursIn phrase := by
  rintro ⟨pattern, mem, front, matched, rest, rfl, spelled⟩
  have numbered : ∀ pattern ∈ Category.topN.patterns, number .count ∈ pattern := by decide
  obtain ⟨c, inside, digit⟩ := spelled.exists_of_run (numbered pattern mem)
  have other := h c (by simp [inside])
  rw [show CharClass.digit.holds c = isDigit c from rfl, other] at digit
  cases digit

/-! ### Units of time -/

theorem TimeUnit.ofWord?_name (u : TimeUnit) : TimeUnit.ofWord? u.name.toList = some u := by
  cases u <;> decide

theorem TimeUnit.ofWord?_adverb (u : TimeUnit) : TimeUnit.ofWord? u.adverb.toList = some u := by
  cases u <;> decide

/-! ### What a category makes of captures -/

section

variable {captures : Captures} {phrase : List Char} {intent : Intent}

theorem Category.intent?_topN (h : Category.topN.intent? captures phrase = some intent) :
    ∃ n dimension metric,
      (captures.get? .count).bind countOf? = some n ∧
      (captures.get? .dimension).bind fieldOf? = some dimension ∧
      (captures.get? .metric).bind fieldOf? = some metric ∧
      intent = .topN n dimension metric (inferFunction metricRules metric.toList) := by
  obtain ⟨n, hn, h⟩ := Option.bind_eq_some_iff.mp h
  obtain ⟨dimension, hd, h⟩ := Option.bind_eq_some_iff.mp h
  obtain ⟨metric, hm, h⟩ := Option.bind_eq_some_iff.mp h
  exact ⟨n, dimension, metric, hn, hd, hm, (Option.some.inj h).symm⟩

theorem Category.intent?_timeSeries
    (h : Category.timeSeries.intent? captures phrase = some intent) :
    ∃ unit metric,
      (captures.get? .unit).bind TimeUnit.ofWord? = some unit ∧
      (captures.get? .metric).bind fieldOf? = some metric ∧
      intent = .timeSeries metric unit timestampField
        (inferFunction metricRules metric.toList) := by
  obtain ⟨unit, hu, h⟩ := Option.bind_eq_some_iff.mp h
  obtain ⟨metric, hm, h⟩ := Option.bind_eq_some_iff.mp h
  exact ⟨unit, metric, hu, hm, (Option.some.inj h).symm⟩

theorem Category.intent?_filtering
    (h : Category.filtering.intent? captures phrase = some intent) :
    ∃ clause context condition,
      captures.get? .operation = some clause ∧ captures.get? .context = some context ∧
      captures.get? .condition = some condition ∧ filterPredicate condition ≠ [] ∧
      intent = .filtering (Operation.ofClause clause) (String.ofList (trim context))
        (String.ofList (filterPredicate condition)) := by
  obtain ⟨clause, ho, h⟩ := Option.bind_eq_some_iff.mp h
  obtain ⟨context, hx, h⟩ := Option.bind_eq_some_iff.mp h
  obtain ⟨condition, hc, h⟩ := Option.bind_eq_some_iff.mp h
  obtain ⟨nonempty, h⟩ := Option.ite_none_left_eq_some.mp h
  exact ⟨clause, context, condition, ho, hx, hc, by simpa using nonempty,
    (Option.some.inj h).symm⟩

theorem Category.intent?_aggregation
    (h : Category.aggregation.intent? captures phrase = some intent) :
    ∃ metric dimension,
      (captures.get? .metric).bind fieldOf? = some metric ∧
      (captures.get? .dimension).bind fieldOf? = some dimension ∧
      intent = .aggregation metric dimension (inferFunction phraseRules phrase) := by
  obtain ⟨metric, hm, h⟩ := Option.bind_eq_some_iff.mp h
  obtain ⟨dimension, hd, h⟩ := Option.bind_eq_some_iff.mp h
  exact ⟨metric, dimension, hm, hd, (Option.some.inj h).symm⟩

theorem Category.intent?_counting
    (h : Category.counting.intent? captures phrase = some intent) :
    ∃ entity, captures.get? .entity = some entity ∧
      intent = .counting (Window.find? entity) (groupOf? entity) := by
  obtain ⟨entity, he, h⟩ := Option.bind_eq_some_iff.mp h
  exact ⟨entity, he, (Option.some.inj h).symm⟩

/-- A category makes intents of its own kind only. -/
theorem Category.category_of_intent? {category : Category}
    (h : category.intent? captures phrase = some intent) : intent.category = category := by
  cases category with
  | topN => obtain ⟨_, _, _, -, -, -, rfl⟩ := Category.intent?_topN h; rfl
  | timeSeries => obtain ⟨_, _, -, -, rfl⟩ := Category.intent?_timeSeries h; rfl
  | filtering => obtain ⟨_, _, _, -, -, -, -, rfl⟩ := Category.intent?_filtering h; rfl
  | aggregation => obtain ⟨_, _, -, -, rfl⟩ := Category.intent?_aggregation h; rfl
  | counting => obtain ⟨_, -, rfl⟩ := Category.intent?_counting h; rfl

end

/-- The grouping field of what is counted is what a part of a phrase means. -/
theorem fieldOf?_of_groupOf? {entity : List Char} {name : String}
    (h : groupOf? entity = some name) : ∃ part, fieldOf? part = some name := by
  obtain ⟨captures, -, h⟩ := Option.bind_eq_some_iff.mp h
  obtain ⟨part, -, h⟩ := Option.bind_eq_some_iff.mp h
  exact ⟨part, h⟩

/-! ### Classification -/

/-- The category that decided. -/
def Classification.category? : Classification → Option Category
  | .matched intent => some intent.category
  | .incomplete category => some category
  | .unmatched => none

/-- What the category that decides makes of the phrase. -/
theorem classify_eq (phrase : List Char) :
    classify phrase =
      match Category.all.find? fun category => (category.captures? phrase).isSome with
      | none => .unmatched
      | some category =>
          match (category.captures? phrase).bind (category.intent? · phrase) with
          | some intent => .matched intent
          | none => .incomplete category := by
  rw [classify]
  induction Category.all with
  | nil => rfl
  | cons category categories ih =>
      rw [List.findSome?_cons, List.find?_cons]
      cases found : category.captures? phrase with
      | none => simpa [found] using ih
      | some captures => cases made : category.intent? captures phrase <;> simp [found, made]

/-- **The first category that occurs decides.** -/
theorem category?_classify (phrase : List Char) :
    (classify phrase).category? =
      Category.all.find? fun category => (category.captures? phrase).isSome := by
  rw [classify_eq]
  split
  next unfound => rw [unfound]; rfl
  next category found =>
      rw [found]
      split
      next intent made =>
          obtain ⟨captures, -, made⟩ := Option.bind_eq_some_iff.mp made
          exact congrArg some (Category.category_of_intent? made)
      next => rfl

/-- The category that decides makes the intent of its captures. -/
theorem intent?_of_captures? {category : Category} {question : String} {captures : Captures}
    (found : category.captures? (phraseOf question) = some captures)
    (earlier : ∀ j : Category, j.rank < category.rank → ¬ j.OccursIn (phraseOf question)) :
    intent? question = category.intent? captures (phraseOf question) := by
  have first : (Category.all.find? fun category =>
      (category.captures? (phraseOf question)).isSome) = some category := by
    refine Category.find?_all_eq_some_iff.mpr ⟨by rw [found]; rfl, fun j lower => ?_⟩
    rw [← Bool.not_eq_true, Category.captures?_isSome_iff]
    exact earlier j lower
  rw [intent?, classify_eq, first]
  simp only [found, Option.bind_some]
  cases category.intent? captures (phraseOf question) <;> rfl

/-- The intent of a question is that of its phrase. -/
theorem classify_of_intent? {question : String} {intent : Intent}
    (h : intent? question = some intent) : classify (phraseOf question) = .matched intent := by
  rw [intent?] at h
  cases found : classify (phraseOf question) with
  | matched made =>
      rw [found] at h
      exact congrArg _ (Option.some.inj h)
  | incomplete | unmatched =>
      rw [found] at h
      cases h

/-- Of the categories before that of an intent none occurs. -/
theorem not_occursIn_of_intent? {question : String} {intent : Intent}
    (h : intent? question = some intent) :
    ∀ j : Category, j.rank < intent.category.rank → ¬ j.OccursIn (phraseOf question) := by
  have decided : (classify (phraseOf question)).category? = some intent.category := by
    rw [classify_of_intent? h]
    rfl
  rw [category?_classify] at decided
  intro j lower
  rw [← Category.captures?_isSome_iff, (Category.find?_all_eq_some_iff.mp decided).2 j lower]
  exact Bool.false_ne_true

/-- An intent is what its category makes of the captures of one of its phrasings. -/
theorem exists_captures_of_matched {phrase : List Char} {intent : Intent}
    (h : classify phrase = .matched intent) :
    ∃ pattern ∈ intent.category.patterns, ∃ captures,
      pattern.find? phrase = some captures ∧
      intent.category.intent? captures phrase = some intent := by
  rw [classify_eq] at h
  split at h
  next => cases h
  next category found =>
      split at h
      next intent' made =>
          obtain rfl := Classification.matched.inj h
          obtain ⟨captures, parts, made⟩ := Option.bind_eq_some_iff.mp made
          obtain ⟨pattern, mem, found⟩ := List.exists_of_findSome?_eq_some parts
          rw [Category.category_of_intent? made]
          exact ⟨pattern, mem, captures, found, made⟩
      next => cases h

theorem exists_captures_of_intent? {question : String} {intent : Intent}
    (h : intent? question = some intent) :
    ∃ pattern ∈ intent.category.patterns, ∃ captures,
      pattern.find? (phraseOf question) = some captures ∧
      intent.category.intent? captures (phraseOf question) = some intent :=
  exists_captures_of_matched (classify_of_intent? h)

end Enquiry.Question
