import Enquiry.Proofs.Question.Wording

/-!
# Questions for periods

A measure for each unit of time can be asked for in three ways (`wordings`): `by` the unit, `by`
its plural, and with the adverb of the unit in front.  The first two are read by one phrasing and
the last by another, which is asked only when there is no `by` between blanks.

**The three are one question** (`intent?_of_wording`), whatever the words of the measure are, and
be they units and adverbs or words of other phrasings.
-/

namespace Enquiry.Query

open Text Question

variable {ms ws : List (List Char)} {question : String} {text rest : List Char}
  {before : Option Char} {captures : Captures} {pieces : Pattern}

/-- The words of the ways to ask for a measure over the periods of a unit. -/
def wordings (u : TimeUnit) (ms : List (List Char)) : List (List (List Char)) :=
  [ms ++ ["by".toList, u.name.toList], ms ++ ["by".toList, (u.name ++ "s").toList],
    u.adverb.toList :: ms]

/-! ### Units -/

/-- Words with other beginnings do not stand where a word stands. -/
theorem eq_of_isPrefix {ws : List (List Char)} {w : List Char}
    (initials : ∀ v ∈ ws, v.head? = w.head? → v = w) (some : [] ∉ ws) (nonempty : w ≠ []) :
    ∀ v ∈ ws, v <+: w ++ rest → v = w := by
  intro v mem starts
  obtain ⟨c, cs, rfl⟩ := List.exists_cons_of_ne_nil nonempty
  cases v with
  | nil => exact absurd mem some
  | cons d ds =>
      obtain ⟨rfl, -⟩ := List.cons_prefix_cons.mp starts
      exact initials _ mem rfl

/-- The nouns of the units, as they are tried. -/
def unitNouns : List String := ["day", "week", "month", "year", "hour"]

/-- The adverbs of the units, as they are tried. -/
def unitAdverbs : List String := ["daily", "weekly", "monthly", "yearly", "hourly"]

/-- Behind a unit, at the end of the text, may stand an `s`. -/
theorem attempt_ending (u : TimeUnit) (before : Option Char) {ending : List Char}
    (form : ending = [] ∨ ending = ['s']) :
    Pattern.attempt [.optional 's', .edge] (lastBefore before u.name.toList) ending = some [] := by
  rcases form with rfl | rfl <;> cases u <;> rfl

/-- A unit at the end of a text is read, in the plural or not. -/
theorem attempt_noun (u : TimeUnit) (before : Option Char) {ending : List Char}
    (form : ending = [] ∨ ending = ['s']) :
    Pattern.attempt [oneOf .unit unitNouns, .optional 's', .edge] before
      (u.name.toList ++ ending) = some [(.unit, u.name.toList)] := by
  refine Pattern.attempt_choice (by cases u <;> decide) ?_ (attempt_ending u before form)
  exact eq_of_isPrefix (by cases u <;> decide) (by decide) (by cases u <;> decide)

/-- An adverb is read as its unit. -/
theorem attempt_adverb (u : TimeUnit)
    (found : Pattern.attempt pieces (lastBefore before u.adverb.toList) rest = some captures) :
    Pattern.attempt (oneOf .unit unitAdverbs :: pieces) before (u.adverb.toList ++ rest) =
      some ((.unit, u.adverb.toList) :: captures) := by
  refine Pattern.attempt_choice (by cases u <;> decide) ?_ found
  exact eq_of_isPrefix (by cases u <;> decide) (by decide) (by cases u <;> decide)

/-! ### Measures -/

/-- Words of a measure: letters, without a `by`, and not only stop words. -/
structure IsMeasure (ms : List (List Char)) : Prop where
  words : ∀ w ∈ ms, IsLetterWord w
  single : "by".toList ∉ ms
  meaning : HasMeaning ms

theorem isLetterWord_name (u : TimeUnit) {ending : List Char}
    (form : ending = [] ∨ ending = ['s']) : IsLetterWord (u.name.toList ++ ending) := by
  rcases form with rfl | rfl <;> cases u <;>
    exact isLetterWord_of_all (by decide) (by decide)

theorem isLetterWord_adverb (u : TimeUnit) : IsLetterWord u.adverb.toList := by
  cases u <;> exact isLetterWord_of_all (by decide) (by decide)

/-- What the captures of a unit and a measure mean. -/
theorem intent?_timeSeries_of_captures {phrase part w : List Char} {u : TimeUnit}
    (h : IsMeasure ms) (spaced : Spaced ms part) (unit : TimeUnit.ofWord? w = some u)
    (captures : Captures) (got : captures.get? .unit = some w)
    (got' : captures.get? .metric = some part) :
    Category.timeSeries.intent? captures phrase = some (.timeSeries (nameOf ms) u timestampField
      (inferFunction metricRules (nameOf ms).toList)) := by
  have name := (fieldOf?_of_spaced spaced fun w mem => (h.words w mem).isFieldWord).1 h.meaning
  rw [Category.intent?]
  simp only [got, got', Option.bind_some, Option.bind_eq_bind, unit, name]

/-- By a unit, in the plural or not. -/
theorem captures?_of_noun (h : IsMeasure ms) (u : TimeUnit) {ending : List Char}
    (form : ending = [] ∨ ending = ['s'])
    (spaced : Spaced (ms ++ ["by".toList, u.name.toList ++ ending]) text) (line : '\n' ∉ text) :
    ∃ metric, Spaced ms metric ∧ Category.timeSeries.captures? text =
      some [(.metric, metric), (.unit, u.name.toList)] := by
  have solid : ∀ w ∈ ms, IsSolid w := fun w mem => (h.words w mem).isFieldWord.isSolid
  obtain ⟨metric, gap₁, behind, rfl, between, first, second⟩ :=
    spaced.exists_of_append h.meaning.ne_nil (by simp)
  obtain ⟨gap₂, unit, rfl, between', last⟩ := second.exists_of_cons (by simp)
  obtain rfl : unit = u.name.toList ++ ending := by
    cases last with
    | last => rfl
    | more _ later => exact absurd rfl later.ne_nil
  refine ⟨metric, first, ?_⟩
  have unitFirst : ∀ c ∈ (u.name.toList ++ ending).head?, isBlank c = false := by
    cases u <;> simp [TimeUnit.name] <;> decide
  have read : Pattern.find?
      [some? .metric, gap, say "by", gap, oneOf .unit unitNouns, .optional 's', .edge]
      (metric ++ (gap₁ ++ ("by".toList ++ (gap₂ ++ (u.name.toList ++ ending))))) =
      some [(.metric, metric), (.unit, u.name.toList)] :=
    Pattern.find?_of_attempt <| attempt_untilBy first solid h.single
      (fun mem => line (by simp [mem])) between between' unitFirst
      fun before => attempt_noun u before form
  rw [unitNouns] at read
  rw [Category.captures?, Category.patterns, List.findSome?_cons, read]

/-- With the adverb in front. -/
theorem captures?_of_adverb (h : IsMeasure ms) (u : TimeUnit)
    (spaced : Spaced (u.adverb.toList :: ms) text) (line : '\n' ∉ text) :
    ∃ metric, Spaced ms metric ∧ Category.timeSeries.captures? text =
      some [(.unit, u.adverb.toList), (.metric, metric)] := by
  have solid : ∀ w ∈ ms, IsSolid w := fun w mem => (h.words w mem).isFieldWord.isSolid
  have solid' : ∀ w ∈ u.adverb.toList :: ms, IsSolid w :=
    List.forall_mem_cons.mpr ⟨(isLetterWord_adverb u).isFieldWord.isSolid, solid⟩
  -- there is no `by` between blanks
  have noBy : Pattern.find? [some? .metric, gap, say "by", gap,
      oneOf .unit ["day", "week", "month", "year", "hour"], .optional 's', .edge] text = none := by
    rw [Option.eq_none_iff_forall_ne_some]
    intro captures found
    have part := mem_partsOf_of_find? found
    rw [spaced.partsOf_eq solid'] at part
    rcases List.mem_cons.mp part with adverb | inside
    · cases u <;> exact absurd adverb (by decide)
    · exact h.single inside
  obtain ⟨gap, metric, rfl, between, measured⟩ := spaced.exists_of_cons h.meaning.ne_nil
  refine ⟨metric, measured, ?_⟩
  have read : Pattern.find? [oneOf .unit unitAdverbs, Question.gap, upToEnd .metric]
      (u.adverb.toList ++ (gap ++ metric)) =
      some [(.unit, u.adverb.toList), (.metric, metric)] := by
    refine Pattern.find?_of_attempt (attempt_adverb u ?_)
    refine Pattern.attempt_longest between.nonempty between.blank (measured.solid_first solid) ?_
    exact attempt_upToEnd (measured.text_ne_nil solid) (fun mem => line (by simp [mem])) _
  rw [unitAdverbs] at read
  rw [Category.captures?, Category.patterns, List.findSome?_cons, noBy, List.findSome?_cons, read]

/-- Words of letters are a question for periods when they are read as one: there is no number of
a top among them. -/
theorem intent?_of_letters (spaced : Spaced ws question.toList)
    (words : ∀ w ∈ ws, IsLetterWord w)
    (found : Category.timeSeries.captures? question.toList = some captures) :
    intent? question = Category.timeSeries.intent? captures question.toList := by
  have phrase := phraseOf_of_spaced spaced fun w mem => (words w mem).isFieldWord
  rw [← phrase] at found ⊢
  refine intent?_of_captures? found fun j lower => ?_
  obtain rfl : j = .topN := Category.rank_injective (Nat.lt_one_iff.mp lower)
  rw [phrase]
  exact not_occursIn_topN (isDigit_of_spaced spaced words)

theorem intent?_of_noun (h : IsMeasure ms) (u : TimeUnit) {ending : List Char}
    (form : ending = [] ∨ ending = ['s'])
    (spaced : Spaced (ms ++ ["by".toList, u.name.toList ++ ending]) question.toList)
    (line : '\n' ∉ question.toList) :
    intent? question = some (.timeSeries (nameOf ms) u timestampField
      (inferFunction metricRules (nameOf ms).toList)) := by
  have words : ∀ w ∈ ms ++ ["by".toList, u.name.toList ++ ending], IsLetterWord w :=
    List.forall_mem_append.mpr ⟨h.words, List.forall_mem_cons.mpr
      ⟨isLetterWord_by, List.forall_mem_singleton.mpr (isLetterWord_name u form)⟩⟩
  obtain ⟨metric, measured, found⟩ := captures?_of_noun h u form spaced line
  rw [intent?_of_letters spaced words found]
  exact intent?_timeSeries_of_captures h measured u.ofWord?_name _ rfl rfl

/-- **The ways to ask for a measure over the periods of a unit are one question.** -/
theorem intent?_of_wording (u : TimeUnit) (h : IsMeasure ms) :
    ∀ ws ∈ wordings u ms, ∀ question : String, Spaced ws question.toList →
      '\n' ∉ question.toList →
      intent? question = some (.timeSeries (nameOf ms) u timestampField
        (inferFunction metricRules (nameOf ms).toList)) := by
  intro ws mem question spaced line
  simp only [wordings, List.mem_cons, List.not_mem_nil, or_false] at mem
  rcases mem with rfl | rfl | rfl
  · rw [← List.append_nil u.name.toList] at spaced
    exact intent?_of_noun h u (.inl rfl) spaced line
  · rw [String.toList_append] at spaced
    exact intent?_of_noun h u (.inr rfl) spaced line
  · have words : ∀ w ∈ u.adverb.toList :: ms, IsLetterWord w :=
      List.forall_mem_cons.mpr ⟨isLetterWord_adverb u, h.words⟩
    obtain ⟨metric, measured, found⟩ := captures?_of_adverb h u spaced line
    rw [intent?_of_letters spaced words found]
    exact intent?_timeSeries_of_captures h measured u.ofWord?_adverb _ rfl rfl

/-- A measure of words that stand in other phrasings. -/
def misleadingMeasure : List (List Char) :=
  ["over", "time", "daily", "where", "weeks", "from", "bytotal"].map String.toList

theorem intent?_of_wording_misleading :
    IsMeasure misleadingMeasure ∧
    ∀ ws ∈ wordings .week misleadingMeasure,
      intent? (String.ofList (List.intercalate ['\t'] ws)) =
        some (.timeSeries "over_time_daily_where_weeks_bytotal" .week "timestamp" .sum) := by
  have measure : IsMeasure misleadingMeasure := by
    refine ⟨?_, by decide, "over".toList, by decide, by decide⟩
    have all : ∀ w ∈ misleadingMeasure, w ≠ [] ∧
        (w.all fun c => decide (('a' ≤ c ∧ c ≤ 'z') ∨ c = '_')) = true := by decide
    exact fun w mem => isLetterWord_of_all (all w mem).1 (all w mem).2
  refine ⟨measure, fun ws mem => ?_⟩
  have some : ∀ ws ∈ wordings .week misleadingMeasure, ws ≠ [] := by decide
  have line : ∀ ws ∈ wordings .week misleadingMeasure, '\n' ∉ List.intercalate ['\t'] ws := by decide
  have spaced : Spaced ws (String.ofList (List.intercalate ['\t'] ws)).toList := by
    rw [String.toList_ofList]
    exact .intercalate (by decide) (some ws mem)
  rw [intent?_of_wording .week measure ws mem _ spaced (by
    rw [String.toList_ofList]
    exact line ws mem)]
  decide

end Enquiry.Query
