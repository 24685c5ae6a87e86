import Enquiry.Proofs.Query.Rendering
import Enquiry.Proofs.Question.Classification

/-!
# Which category a question belongs to

The patterns of a category are formal languages, and a category occurs in a phrase when some part
of the phrase belongs to one of them, where it stands.

**The category of a phrase** (`classify_reports_iff`) is the first that occurs in it, in the order
of `Category.rank`, whatever the search for its parts prefers and whatever it makes of them; and
a phrase has none exactly when none occurs.  What the decided category cannot make an intent of is
listed, and no later category is asked.  A question that asks for a top is therefore a top or is
listed, whatever else it says.
-/

namespace Enquiry.Query

open Text Question

/-- The category has decided, with an intent of its own or because it lacks a part. -/
def Reports (c : Classification) (k : Category) : Prop :=
  (∃ intent, c = .matched intent ∧ intent.category = k) ∨ c = .incomplete k

theorem reports_iff {c : Classification} {k : Category} :
    Reports c k ↔ c.category? = some k := by
  cases c <;> simp [Reports, Classification.category?]

theorem eq_unmatched_iff {c : Classification} : c = .unmatched ↔ c.category? = none := by
  cases c <;> simp [Classification.category?]

theorem category?_classify_eq_some_iff {phrase : List Char} {k : Category} :
    (classify phrase).category? = some k ↔
      k.OccursIn phrase ∧ ∀ j : Category, j.rank < k.rank → ¬ j.OccursIn phrase := by
  simp only [category?_classify, Category.find?_all_eq_some_iff, ← Bool.not_eq_true,
    Category.captures?_isSome_iff]

theorem category?_classify_eq_none_iff {phrase : List Char} :
    (classify phrase).category? = none ↔ ∀ k : Category, ¬ k.OccursIn phrase := by
  rw [category?_classify, List.find?_eq_none]
  simp only [Category.captures?_isSome_iff]
  exact ⟨fun h k => h k (Category.mem_all k), fun h k _ => h k⟩

/-- A question whose category lacks a part is listed. -/
theorem compile_of_incomplete {question : String} {k : Category}
    (h : classify (phraseOf question) = .incomplete k) (setting : Setting) :
    compile setting question = listing setting.locator setting.limit := by
  rw [compile, intent?, h]
  rfl

/-! ### Questions for a top -/

/-- A text that is not empty and has characters of one kind only. -/
def IsRun (p : Char → Bool) (text : List Char) : Prop := text ≠ [] ∧ ∀ c ∈ text, p c = true

/-- Some part of the phrase is `top`, a number, a dimension, `by` and a metric, with blanks
between them. -/
def AsksForTop (phrase : List Char) : Prop :=
  ∃ front gap₁ number gap₂ dimension gap₃ gap₄ metric rest,
    phrase = front ++ ("top".toList ++ (gap₁ ++ (number ++ (gap₂ ++ (dimension ++ (gap₃ ++
      ("by".toList ++ (gap₄ ++ metric)))))))) ++ rest ∧
    IsRun isBlank gap₁ ∧ IsRun isDigit number ∧ IsRun isBlank gap₂ ∧
    IsRun (· != '\n') dimension ∧ IsRun isBlank gap₃ ∧ IsRun isBlank gap₄ ∧
    IsRun (· != '\n') metric

theorem occursIn_of_asksForTop {phrase : List Char} (h : AsksForTop phrase) :
    Category.topN.OccursIn phrase := by
  obtain ⟨front, gap₁, number, gap₂, dimension, gap₃, gap₄, metric, rest, rfl, hg₁, hn, hg₂, hd,
    hg₃, hg₄, hm⟩ := h
  refine ⟨_, List.mem_cons_self .., front, _, rest, rfl, ?_⟩
  exact .cons (.word _) <| .cons (.run hg₁.1 hg₁.2) <| .cons (.run hn.1 hn.2) <|
    .cons (.run hg₂.1 hg₂.2) <| .cons (.run hd.1 hd.2) <| .cons (.run hg₃.1 hg₃.2) <|
    .cons (.word _) <| .cons (.run hg₄.1 hg₄.2) <| Piece.Spells.singleton (.run hm.1 hm.2)

/-- What is asked for as a top has an intent of that kind, or none. -/
theorem intent?_of_asksForTop {question : String} (h : AsksForTop (phraseOf question)) :
    (∃ n dimension metric function,
      intent? question = some (.topN n dimension metric function)) ∨ intent? question = none := by
  have decided : (classify (phraseOf question)).category? = some .topN :=
    category?_classify_eq_some_iff.mpr
      ⟨occursIn_of_asksForTop h, fun _ earlier => absurd earlier (Nat.not_lt_zero _)⟩
  rw [intent?]
  rcases reports_iff.mpr decided with ⟨intent, e, kind⟩ | e <;> rw [e]
  · cases intent with
    | topN n dimension metric function => exact .inl ⟨n, dimension, metric, function, rfl⟩
    | timeSeries | filtering | aggregation | counting => cases kind
  · exact .inr rfl

/-- **The category of a phrase** is the first that occurs in it, and there is none when none
occurs.  A phrase whose category lacks a part is listed; one that asks for a top is a top or is
listed. -/
theorem classify_reports_iff :
    (∀ phrase k, Reports (classify phrase) k ↔
      k.OccursIn phrase ∧ ∀ j : Category, j.rank < k.rank → ¬ j.OccursIn phrase) ∧
    (∀ phrase, classify phrase = .unmatched ↔ ∀ k : Category, ¬ k.OccursIn phrase) ∧
    (∀ question k, classify (phraseOf question) = .incomplete k → ∀ setting,
      compile setting question = listing setting.locator setting.limit) ∧
    (∀ question, AsksForTop (phraseOf question) → ∀ setting,
      (∃ n dimension metric function,
        intent? question = some (.topN n dimension metric function) ∧
        compile setting question = ofIntent setting (.topN n dimension metric function)) ∨
      compile setting question = listing setting.locator setting.limit) := by
  refine ⟨fun phrase k => reports_iff.trans category?_classify_eq_some_iff,
    fun phrase => eq_unmatched_iff.trans category?_classify_eq_none_iff,
    fun question k h => compile_of_incomplete h, fun question h setting => ?_⟩
  rcases intent?_of_asksForTop h with ⟨n, dimension, metric, function, e⟩ | e
  · exact .inl ⟨n, dimension, metric, function, e, by rw [compile, e]⟩
  · exact .inr (by rw [compile, e])

/-- A question that also counts, filters, averages and goes by the day. -/
def crowdedQuestion : String := " Top 3 teams by\tcount for sales where average pay by day"

theorem classify_reports_iff_crowded :
    AsksForTop (phraseOf crowdedQuestion) ∧
    ((∃ n dimension metric function,
        intent? crowdedQuestion = some (.topN n dimension metric function) ∧
        compile ⟨"s3://b/*", 10, Date.epoch⟩ crowdedQuestion =
          ofIntent ⟨"s3://b/*", 10, Date.epoch⟩ (.topN n dimension metric function)) ∨
      compile ⟨"s3://b/*", 10, Date.epoch⟩ crowdedQuestion = listing "s3://b/*" 10) := by
  have asks : AsksForTop (phraseOf crowdedQuestion) := by
    refine ⟨[], [' '], ['3'], [' '], "teams".toList, [' '], ['\t'],
      "count for sales where average pay by day".toList, [], ?_⟩
    have phrase : phraseOf crowdedQuestion =
        "top 3 teams by\tcount for sales where average pay by day".toList := by decide +kernel
    have kinds : isBlank ' ' = true ∧ isBlank '\t' = true ∧ isDigit '3' = true := by decide
    exact ⟨phrase, by simp [IsRun, kinds]⟩
  exact ⟨asks, classify_reports_iff.2.2.2 crowdedQuestion asks _⟩

end Enquiry.Query
