import Mathlib.Data.List.Induction
import Mathlib.Data.Nat.Digits.Defs
import Enquiry.Proofs.Query.Priority
import Enquiry.Proofs.Question.Wording
import Enquiry.Proofs.Text.Digits

/-!
# Questions for a top

`IsRanking` is the full form of a question for a top: `top`, a number, the words of the dimension,
`by` and the words of the metric, with blanks between them.  Whatever the words are, they are read
as they stand (`captures?_of_isRanking`): the number has all its digits, the dimension ends at the
first `by`, and everything behind that is the metric.

**A ranking is understood as it is written** (`intent?_of_isRanking`).  When its number does not
fit into 64 bits, or nothing is left of the dimension or the metric without the stop words, the
question is listed; no other number or field takes their place.
-/

namespace Enquiry.Query

open Text Question Number

variable {v : List Char} {ds ms : List (List Char)} {question : String}

/-! ### The number -/

/-- The number that some digits stand for, the highest first. -/
def valueOf (v : List Char) : Nat := Nat.ofDigits 10 (v.reverse.map fun c => c.toNat - '0'.toNat)

/-- Digits are read as their number, whatever zeros lead them. -/
theorem number?_eq_valueOf (h : IsRun isAsciiDigit v) : number? v = some (valueOf v) := by
  obtain ⟨nonempty, digits⟩ := h
  rw [number?_of_ne_nil nonempty]
  clear nonempty
  induction v using List.reverseRecOn with
  | nil => rfl
  | append_singleton cs c ih =>
      obtain ⟨front, last⟩ := List.forall_mem_append.mp digits
      have value : digitValue? c = some (c.toNat - '0'.toNat) := by
        rw [digitValue?, if_pos (last c (List.mem_singleton_self c))]
      rw [List.foldlM_append, ih front]
      simp [value, valueOf, Nat.ofDigits_cons, Nat.add_comm]

theorem countOf?_of_isRun (h : IsRun isAsciiDigit v) :
    countOf? v = if valueOf v < 2 ^ 64 then some (valueOf v) else none := by
  have bound : valueOf v ≤ maxCount ↔ valueOf v < 2 ^ 64 := by
    rw [maxCount, wordBound]
    omega
  rw [countOf?, number?_eq_valueOf h, Option.bind_some]
  simp only [bound]

/-! ### The parts -/

/-- `top`, a number, the words of a dimension, `by` and the words of a metric. -/
structure IsRanking (v : List Char) (ds ms : List (List Char)) (question : String) : Prop where
  number : IsRun isAsciiDigit v
  dimension : ds ≠ []
  metric : ms ≠ []
  words : ∀ w ∈ ds ++ ms, IsFieldWord w
  single : "by".toList ∉ ds
  spaced : Spaced ("top".toList :: v :: ds ++ "by".toList :: ms) question.toList
  line : '\n' ∉ question.toList

theorem isFieldWord_of_isRun (h : IsRun isAsciiDigit v) : IsFieldWord v :=
  ⟨h.1, fun c mem => by simp [isFieldChar, h.2 c mem]⟩

/-- The words of a ranking. -/
theorem IsRanking.isFieldWord (h : IsRanking v ds ms question) :
    ∀ w ∈ "top".toList :: v :: ds ++ "by".toList :: ms, IsFieldWord w := by
  have top : IsLetterWord "top".toList := isLetterWord_of_all (by decide) (by decide)
  have words := List.forall_mem_append.mp h.words
  refine List.forall_mem_append.mpr
    ⟨?_, List.forall_mem_cons.mpr ⟨isLetterWord_by.isFieldWord, words.2⟩⟩
  exact List.forall_mem_cons.mpr
    ⟨top.isFieldWord, List.forall_mem_cons.mpr ⟨isFieldWord_of_isRun h.number, words.1⟩⟩

section

variable {gap₁ gap₂ gap₃ gap₄ dimension metric : List Char}

/-- Between blanks the number, the dimension and the metric are read as they stand: the number ends
at a blank, the dimension at the first `by`, and the metric with the text. -/
theorem find?_ranking (number : IsRun isAsciiDigit v) (first : IsGap gap₁) (second : IsGap gap₂)
    (third : IsGap gap₃) (fourth : IsGap gap₄) (grouped : Spaced ds dimension)
    (measured : Spaced ms metric) (solid : ∀ w ∈ ds, IsSolid w) (solid' : ∀ w ∈ ms, IsSolid w)
    (without : "by".toList ∉ ds) (line : '\n' ∉ dimension) (line' : '\n' ∉ metric) :
    Pattern.find?
      [say "top", gap, Question.number .count, gap, some? .dimension, gap, say "by", gap,
        upToEnd .metric]
      ("top".toList ++ (gap₁ ++ (v ++ (gap₂ ++ (dimension ++ (gap₃ ++ ("by".toList ++
        (gap₄ ++ metric)))))))) =
      some [(.count, v), (.dimension, dimension), (.metric, metric)] := by
  have digits : Spaced [v] v := .last v
  have numberFirst := digits.solid_head fun w mem => by
    rw [List.mem_singleton.mp mem]
    exact (isFieldWord_of_isRun number).isSolid
  refine Pattern.find?_of_attempt ?_
  rw [say, Pattern.attempt_word]
  refine Pattern.attempt_longest first.nonempty first.blank (numberFirst _) ?_
  refine Pattern.attempt_longest number.1 (fun c mem => ?_)
    (fun c mem => isDigit_of_isBlank (second.blank_head _ c mem)) ?_
  · simp [CharClass.holds, isDigit, number.2 c mem]
  refine Pattern.attempt_longest second.nonempty second.blank (grouped.solid_head solid _) ?_
  exact attempt_untilBy grouped solid without line third fourth (measured.solid_first solid')
    (attempt_upToEnd (measured.text_ne_nil solid') line')

end

/-- **The parts of a ranking are read as they stand.** -/
theorem captures?_of_isRanking (h : IsRanking v ds ms question) :
    ∃ dimension metric, Spaced ds dimension ∧ Spaced ms metric ∧
      Category.topN.captures? (phraseOf question) =
        some [(.count, v), (.dimension, dimension), (.metric, metric)] := by
  have line := h.line
  have words := List.forall_mem_append.mp h.words
  -- the text is cut at the blanks between its parts
  obtain ⟨front, gap₃, behind, split, between₃, first, second⟩ :=
    h.spaced.exists_of_append (List.cons_ne_nil _ _) (List.cons_ne_nil _ _)
  obtain ⟨gap₄, metric, rfl, between₄, measured⟩ := second.exists_of_cons h.metric
  obtain ⟨gap₁, numbered, rfl, between₁, numberFirst⟩ := first.exists_of_cons (List.cons_ne_nil _ _)
  obtain ⟨gap₂, dimension, rfl, between₂, grouped⟩ := numberFirst.exists_of_cons h.dimension
  refine ⟨dimension, metric, grouped, measured, ?_⟩
  rw [split] at line
  have read := find?_ranking h.number between₁ between₂ between₃ between₄ grouped measured
    (fun w mem => (words.1 w mem).isSolid) (fun w mem => (words.2 w mem).isSolid) h.single
    (fun mem => line (by simp [mem])) (fun mem => line (by simp [mem]))
  rw [phraseOf_of_spaced h.spaced h.isFieldWord, split, Category.captures?, Category.patterns,
    List.findSome?_cons]
  simp only [List.append_assoc]
  rw [read]

/-- **A ranking is understood as it is written**, or listed. -/
theorem intent?_of_isRanking (h : IsRanking v ds ms question) :
    (valueOf v < 2 ^ 64 ∧ HasMeaning ds ∧ HasMeaning ms →
      intent? question = some (.topN (valueOf v) (nameOf ds) (nameOf ms)
        (inferFunction metricRules (nameOf ms).toList))) ∧
    (¬ (valueOf v < 2 ^ 64 ∧ HasMeaning ds ∧ HasMeaning ms) → ∀ setting,
      compile setting question = listing setting.locator setting.limit) := by
  obtain ⟨dimension, metric, grouped, measured, parts⟩ := captures?_of_isRanking h
  have words := List.forall_mem_append.mp h.words
  have made : intent? question = (countOf? v).bind fun n => (fieldOf? dimension).bind fun d =>
      (fieldOf? metric).bind fun m =>
        some (.topN n d m (inferFunction metricRules m.toList)) := by
    rw [intent?_of_captures? parts fun j lower => absurd lower (Nat.not_lt_zero _),
      Category.intent?]
    simp only [get?_cons, if_true, reduceCtorEq, if_false, Option.bind_some, Option.bind_eq_bind]
  rw [countOf?_of_isRun h.number] at made
  have name := fieldOf?_of_spaced grouped words.1
  have name' := fieldOf?_of_spaced measured words.2
  constructor
  · rintro ⟨fits, meaning, meaning'⟩
    rw [made, if_pos fits, name.1 meaning, name'.1 meaning']
    rfl
  · intro lacks setting
    have none : intent? question = none := by
      rw [made]
      split
      next fits =>
          by_cases meaning : HasMeaning ds
          · rw [name.1 meaning, name'.2 fun meaning' => lacks ⟨fits, meaning, meaning'⟩]
            rfl
          · rw [name.2 meaning]
            rfl
      next => rfl
    rw [compile, none]

/-- Leading zeros, another `by`, words that hold a `by`, and blanks of other scripts. -/
def rankingOf (number : String) : String :=
  "top\u2003" ++ number ++ "\t\u00a0byteam the highest by by average top 2 of day"

theorem isRanking_rankingOf {number : String} (h : IsRun isAsciiDigit number.toList)
    (line : '\n' ∉ number.toList) :
    IsRanking number.toList ["byteam".toList, "the".toList, "highest".toList]
      ["by".toList, "average".toList, "top".toList, "2".toList, "of".toList, "day".toList]
      (rankingOf number) := by
  have spelled : (rankingOf number).toList = "top".toList ++ (['\u2003'] ++ (number.toList ++
      (['\t', '\u00a0'] ++ List.intercalate [' '] ["byteam".toList, "the".toList, "highest".toList,
        "by".toList, "by".toList, "average".toList, "top".toList, "2".toList, "of".toList,
        "day".toList]))) := by
    simp only [rankingOf, String.toList_append, List.append_assoc]
    rfl
  refine ⟨h, by decide, by decide, ?_, by decide, ?_, ?_⟩
  · have all : ∀ w ∈ ["byteam".toList, "the".toList, "highest".toList, "by".toList,
        "average".toList, "top".toList, "2".toList, "of".toList, "day".toList],
        w ≠ [] ∧ w.all isFieldChar = true := by decide
    exact fun w mem => ⟨(all w mem).1, List.all_eq_true.mp (all w mem).2⟩
  · rw [spelled]
    exact .more (isGap_singleton (by decide)) (.more ⟨by decide, List.all_eq_true.mp (by decide)⟩
      (.intercalate (by decide) (by decide)))
  · rw [spelled]
    simp [line]

theorem intent?_of_isRanking_zeros :
    intent? (rankingOf "007") = some (.topN 7 "byteam_highest" "average_top_2_day" .avg) ∧
    compile ⟨"s3://b/*", 10, Date.epoch⟩ (rankingOf "18446744073709551616") =
      listing "s3://b/*" 10 := by
  have zeros : IsRun isAsciiDigit "007".toList :=
    ⟨by decide, List.all_eq_true.mp (by decide)⟩
  have large : IsRun isAsciiDigit "18446744073709551616".toList :=
    ⟨by decide, List.all_eq_true.mp (by decide)⟩
  constructor
  · have meaning : HasMeaning ["byteam".toList, "the".toList, "highest".toList] :=
      ⟨"byteam".toList, by decide, by decide⟩
    have meaning' : HasMeaning ["by".toList, "average".toList, "top".toList, "2".toList,
        "of".toList, "day".toList] := ⟨"average".toList, by decide, by decide⟩
    have value : valueOf "007".toList = 7 := by decide
    have read := (intent?_of_isRanking (isRanking_rankingOf zeros (by decide))).1
      ⟨by rw [value]; decide, meaning, meaning'⟩
    rw [read, value]
    decide
  · refine (intent?_of_isRanking (isRanking_rankingOf large (by decide))).2 (fun ⟨fits, _⟩ => ?_) _
    exact absurd fits (by decide)

end Enquiry.Query
