import Enquiry.Proofs.Calendar
import Enquiry.Proofs.Query.Dependence
import Enquiry.Proofs.Query.Pipeline
import Enquiry.Proofs.Text.Splitting

/-!
# Queries that are read back

A query that is no filter is made of words of field characters between marks, so it can be read
back: `recognize?` does so, for a given day, and gives the intent that the stages were made from
(`recognize?_stages`).  That takes two things.  The fields of an intent have to be names of fields,
and those of an understood question are (`isFieldName_of_mem_fields`).  And yesterday must be
another day than today; it is on all days but the first of the calendar.

**The query of a question determines its intent** (`compile_eq_iff_intent_eq`), as long as it is
no filter, and no such query is a plain listing.
-/

namespace Enquiry.Question

open Text

/-- The names of fields in an intent. -/
def Intent.fields : Intent → List String
  | .topN _ dimension metric _ => [dimension, metric]
  | .timeSeries metric _ timestampField _ => [metric, timestampField]
  | .filtering .. => []
  | .aggregation metric dimension _ => [metric, dimension]
  | .counting _ groupBy => groupBy.toList

theorem isFieldName_timestampField : IsFieldName timestampField :=
  ⟨by decide, List.all_eq_true.mp (by decide), by decide⟩

/-- **The fields of an understood question are names of fields.** -/
theorem isFieldName_of_mem_fields {question : String} {intent : Intent}
    (h : intent? question = some intent) : ∀ name ∈ intent.fields, IsFieldName name := by
  obtain ⟨pattern, -, captures, -, made⟩ := exists_captures_of_intent? h
  cases kind : intent.category <;> rw [kind] at made
  case topN =>
      obtain ⟨n, d, m, -, hd, hm, rfl⟩ := Category.intent?_topN made
      simp [Intent.fields, Query.isFieldName_of_bind hd, Query.isFieldName_of_bind hm]
  case timeSeries =>
      obtain ⟨unit, m, -, hm, rfl⟩ := Category.intent?_timeSeries made
      simp [Intent.fields, Query.isFieldName_of_bind hm, isFieldName_timestampField]
  case filtering =>
      obtain ⟨clause, context, condition, -, -, -, -, rfl⟩ := Category.intent?_filtering made
      simp [Intent.fields]
  case aggregation =>
      obtain ⟨m, d, hm, hd, rfl⟩ := Category.intent?_aggregation made
      simp [Intent.fields, Query.isFieldName_of_bind hd, Query.isFieldName_of_bind hm]
  case counting =>
      obtain ⟨entity, -, rfl⟩ := Category.intent?_counting made
      intro name mem
      obtain ⟨part, named⟩ := fieldOf?_of_groupOf? (Option.mem_toList.mp mem)
      exact isFieldName_of_fieldOf? named

theorem IsFieldName.toList_ne_nil {name : String} (h : IsFieldName name) : name.toList ≠ [] :=
  fun none => h.nonempty (String.toList_eq_nil_iff.mp none)

end Enquiry.Question

namespace Enquiry.Query

open Text Question

/-! ### Reading a query -/

/-- The word in front of a text, and what stands behind it. -/
def readWord (text : List Char) : List Char × List Char :=
  (text.takeWhile isFieldChar, text.dropWhile isFieldChar)

/-- The function with a name. -/
def functionOf? (name : List Char) : Option AggregateFunction :=
  [AggregateFunction.sum, .avg, .max, .min, .count].find? fun f => name == f.name.toList

/-- The number at the end of a text. -/
def lastNumber? (text : List Char) : Option Nat :=
  number? (text.reverse.takeWhile isAsciiDigit).reverse

/-- The window of the clause in front of a text, if there is one, and what stands behind it. -/
def readWindow (today : Date) (text : List Char) : Option Window × List Char :=
  match afterStart? "WHERE timestamp > now() - interval '24 hours' | ".toList text with
  | some rest => (some .last24Hours, rest)
  | none =>
      match afterStart? "WHERE date(timestamp) = '".toList text with
      | some rest =>
          let (day, rest) := breakOn '\'' rest
          (some (if day = today.chars then .today else .yesterday), rest.drop 3)
      | none => (none, text)

/-- The function of an aggregate, what it is applied to, and what stands behind it. -/
def readAggregate? (text : List Char) :
    Option (AggregateFunction × List Char × List Char) := do
  let text ← afterStart? "SUMMARIZE ".toList text
  let (name, text) := readWord text
  let (metric, text) := readWord (text.drop 1)
  return (← functionOf? name, metric, text.drop 1)

/-- The intent of an aggregate, from what stands behind it. -/
def ofAggregate? (window : Option Window) (function : AggregateFunction)
    (metric text : List Char) : Option Intent :=
  let (word, text) := readWord (text.drop 4)
  if metric = [] then
    some (.counting window (if word = [] then none else some (String.ofList word)))
  else
    let metric := String.ofList metric
    match text with
    | [] => some (.aggregation metric (String.ofList word) function)
    | '(' :: text => do
        let (unit, text) := readWord (text.drop 1)
        let unit ← TimeUnit.ofWord? unit
        return .timeSeries metric unit (String.ofList (readWord (text.drop 3)).1) function
    | text => do
        let n ← lastNumber? text
        return .topN n (String.ofList word) metric function

/-- The intent of a query on a day, from what stands behind its source. -/
def recognize? (today : Date) (text : List Char) : Option Intent :=
  let (window, text) := readWindow today text
  (readAggregate? text).bind fun (function, metric, text) =>
    ofAggregate? window function metric text

/-! ### What is read back -/

section

variable {word rest : List Char}

theorem readWord_append_cons (chars : ∀ c ∈ word, isFieldChar c = true) {mark : Char}
    (stops : isFieldChar mark = false) :
    readWord (word ++ mark :: rest) = (word, mark :: rest) := by
  rw [readWord, List.takeWhile_append_of_pos chars, List.dropWhile_append_of_pos chars,
    List.takeWhile_cons_of_neg (by simp [stops]), List.dropWhile_cons_of_neg (by simp [stops]),
    List.append_nil]

/-- A text that is a word. -/
theorem readWord_of_chars (chars : ∀ c ∈ word, isFieldChar c = true) :
    readWord word = (word, []) := by
  rw [readWord, List.takeWhile_eq_self_iff.mpr chars, List.dropWhile_eq_nil_iff.mpr chars]

theorem functionOf?_name (function : AggregateFunction) :
    functionOf? function.name.toList = some function := by cases function <;> decide

theorem isFieldChar_of_mem_function (function : AggregateFunction) :
    ∀ c ∈ function.name.toList, isFieldChar c = true :=
  List.all_eq_true.mp (by cases function <;> decide)

theorem isFieldChar_of_mem_unit (unit : TimeUnit) :
    ∀ c ∈ unit.name.toList, isFieldChar c = true :=
  List.all_eq_true.mp (by cases unit <;> decide)

theorem lastNumber?_append_decimal (front : List Char) (n : Nat) :
    lastNumber? (front ++ ' ' :: decimal n) = some n := by
  have digits : ∀ c ∈ (decimal n).reverse, isAsciiDigit c = true := fun c mem =>
    isAsciiDigit_of_mem_decimal (List.mem_reverse.mp mem)
  have stops : isAsciiDigit ' ' = false := by decide
  rw [lastNumber?, List.reverse_append, List.reverse_cons, List.append_assoc,
    List.takeWhile_append_of_pos digits, List.singleton_append,
    List.takeWhile_cons_of_neg (by simp [stops]), List.append_nil, List.reverse_reverse,
    number?_decimal]

/-- An aggregate is read back, whatever stands behind it. -/
theorem readAggregate?_append (function : AggregateFunction)
    (chars : ∀ c ∈ word, isFieldChar c = true) :
    readAggregate? ("SUMMARIZE ".toList ++ (function.name.toList ++ '(' :: (word ++ ')' :: rest))) =
      some (function, word, rest) := by
  have opens : isFieldChar '(' = false := by decide
  have closes : isFieldChar ')' = false := by decide
  simp only [readAggregate?, afterStart?_append, Option.bind_eq_bind, Option.bind_some,
    readWord_append_cons (isFieldChar_of_mem_function function) opens, List.drop_succ_cons,
    List.drop_zero, readWord_append_cons chars closes, functionOf?_name]
  rfl

end

/-! ### The window -/

theorem quote_not_mem_chars (day : Date) : '\'' ∉ day.chars := by
  intro mem
  rcases day.digit_or_sign_of_mem_chars mem with h | h | h <;> revert h <;> decide

/-- A day clause is read back: it is today's when the day is today. -/
theorem readWindow_dayClause (today day : Date) (rest : List Char) :
    readWindow today ((dayClause day).toList ++ rest) =
      (some (if day = today then .today else .yesterday), rest) := by
  have text : (dayClause day).toList ++ rest =
      "WHERE date(timestamp) = '".toList ++ (day.chars ++ '\'' :: (" | ".toList ++ rest)) := by
    simp [dayClause, timestampField, Date.text]
  have noHours : afterStart? "WHERE timestamp > now() - interval '24 hours' | ".toList
      ("WHERE date(timestamp) = '".toList ++ (day.chars ++ '\'' :: (" | ".toList ++ rest))) =
        none := by
    simp [afterStart?]
  have same : day.chars = today.chars ↔ day = today :=
    ⟨fun e => Date.text_injective (congrArg String.ofList e), fun e => congrArg Date.chars e⟩
  rw [text, readWindow, noHours]
  simp only [afterStart?_append, breakOn_append_cons (quote_not_mem_chars day), same]
  rfl

/-- Stages without a window are read from their front. -/
theorem readWindow_summarize (today : Date) (rest : List Char) :
    readWindow today ("SUMMARIZE ".toList ++ rest) = (none, "SUMMARIZE ".toList ++ rest) := by
  simp [readWindow, afterStart?]

/-- **The window of a query is read back** on all days but the first. -/
theorem readWindow_append {today : Date} (later : today ≠ .first) (window : Option Window)
    (rest : List Char) :
    readWindow today (((window.map (windowClause today)).getD "").toList ++
      ("SUMMARIZE ".toList ++ rest)) = (window, "SUMMARIZE ".toList ++ rest) := by
  match window with
  | none => exact readWindow_summarize today rest
  | some .today =>
      have read := readWindow_dayClause today today ("SUMMARIZE ".toList ++ rest)
      rwa [if_pos rfl] at read
  | some .yesterday =>
      -- yesterday is another day
      obtain ⟨yesterday, before, other⟩ := Date.exists_previous later
      have read := readWindow_dayClause today yesterday ("SUMMARIZE ".toList ++ rest)
      rw [if_neg other] at read
      simpa [windowClause, before] using read
  | some .last24Hours =>
      have clause : (windowClause today .last24Hours).toList =
          "WHERE timestamp > now() - interval '24 hours' | ".toList := by
        simp [windowClause, timestampField]
      simp only [Option.map_some, Option.getD_some, clause, readWindow, afterStart?_append]

/-! ### The intent -/

section

variable {window : Option Window} {function : AggregateFunction} {metric word rest : List Char}

/-- A count for each group. -/
theorem ofAggregate?_group (chars : ∀ c ∈ word, isFieldChar c = true) (filled : word ≠ []) :
    ofAggregate? window function [] (" BY ".toList ++ word) =
      some (.counting window (some (String.ofList word))) := by
  simp [ofAggregate?, readWord_of_chars chars, filled]

/-- An aggregate for each group. -/
theorem ofAggregate?_word (measures : metric ≠ []) (chars : ∀ c ∈ word, isFieldChar c = true) :
    ofAggregate? window function metric (" BY ".toList ++ word) =
      some (.aggregation (String.ofList metric) (String.ofList word) function) := by
  simp [ofAggregate?, readWord_of_chars chars, measures]

/-- An aggregate over time. -/
theorem ofAggregate?_dateTrunc (measures : metric ≠ []) (unit : TimeUnit)
    (chars : ∀ c ∈ word, isFieldChar c = true) :
    ofAggregate? window function metric
        (" BY date_trunc('".toList ++ (unit.name.toList ++ '\'' :: (", ".toList ++
          (word ++ ')' :: rest)))) =
      some (.timeSeries (String.ofList metric) unit (String.ofList word) function) := by
  have opens : isFieldChar '(' = false := by decide
  have closes : isFieldChar ')' = false := by decide
  have quote : isFieldChar '\'' = false := by decide
  have call : ∀ c ∈ "date_trunc".toList, isFieldChar c = true :=
    List.all_eq_true.mp (by decide)
  have behind : (" BY date_trunc('".toList ++ (unit.name.toList ++ '\'' :: (", ".toList ++
      (word ++ ')' :: rest)))).drop 4 = "date_trunc".toList ++ '(' :: ('\'' :: (unit.name.toList ++
        '\'' :: (", ".toList ++ (word ++ ')' :: rest)))) := rfl
  have unitRead : ∀ rest, readWord (unit.name.toList ++ '\'' :: rest) =
      (unit.name.toList, '\'' :: rest) :=
    fun _ => readWord_append_cons (isFieldChar_of_mem_unit unit) quote
  simp only [ofAggregate?, behind, readWord_append_cons call opens, if_neg measures]
  simp [unitRead, TimeUnit.ofWord?_name, readWord_append_cons chars closes]

/-- The greatest groups. -/
theorem ofAggregate?_top (measures : metric ≠ []) (chars : ∀ c ∈ word, isFieldChar c = true)
    (n : Nat) :
    ofAggregate? window function metric
        (" BY ".toList ++ (word ++ ' ' :: (rest ++ ' ' :: decimal n))) =
      some (.topN n (String.ofList word) (String.ofList metric) function) := by
  have space : isFieldChar ' ' = false := by decide
  have behind : (" BY ".toList ++ (word ++ ' ' :: (rest ++ ' ' :: decimal n))).drop 4 =
      word ++ ' ' :: (rest ++ ' ' :: decimal n) := rfl
  have last := lastNumber?_append_decimal (' ' :: rest) n
  rw [List.cons_append] at last
  simp only [ofAggregate?, behind, readWord_append_cons chars space, if_neg measures]
  simp [last]

/-- A query is read piece by piece. -/
theorem recognize?_eq {today : Date} {text : List Char}
    (front : readWindow today text = (window, rest))
    (aggregate : readAggregate? rest = some (function, metric, word)) :
    recognize? today text = ofAggregate? window function metric word := by
  simp only [recognize?, front, aggregate, Option.bind_some]

end

/-- **The stages of an intent are read back**, unless they filter. -/
theorem recognize?_stages {today : Date} (later : today ≠ .first) (limit : Nat) {intent : Intent}
    (named : ∀ name ∈ intent.fields, IsFieldName name) (kind : intent.category ≠ .filtering) :
    recognize? today (stages limit today intent).toList = some intent := by
  cases intent with
  | topN n dimension metric function =>
      have d : IsFieldName dimension := named _ (by simp [Intent.fields])
      have m : IsFieldName metric := named _ (by simp [Intent.fields])
      -- the stages, cut where they are cut when they are read
      have text : (stages limit today (.topN n dimension metric function)).toList =
          "SUMMARIZE ".toList ++ (function.name.toList ++ '(' :: (metric.toList ++ ')' ::
            (" BY ".toList ++ (dimension.toList ++ ' ' :: ("| ORDER BY ".toList ++
              (function.name.toList ++ '(' :: (metric.toList ++ ") DESC | HEAD".toList)) ++
              ' ' :: decimal n))))) := by
        unfold stages
        simp [numberText]
      rw [text, recognize?_eq (readWindow_summarize today _) (readAggregate?_append function m.chars),
        ofAggregate?_top m.toList_ne_nil d.chars, String.ofList_toList, String.ofList_toList]
  | timeSeries metric unit timestampField function =>
      have m : IsFieldName metric := named _ (by simp [Intent.fields])
      have t : IsFieldName timestampField := named _ (by simp [Intent.fields])
      have text : (stages limit today (.timeSeries metric unit timestampField function)).toList =
          "SUMMARIZE ".toList ++ (function.name.toList ++ '(' :: (metric.toList ++ ')' ::
            (" BY date_trunc('".toList ++ (unit.name.toList ++ '\'' :: (", ".toList ++
              (timestampField.toList ++ ')' :: (" | ORDER BY date_trunc('".toList ++
                (unit.name.toList ++ ("', ".toList ++ (timestampField.toList ++ [')'])))))))))) := by
        unfold stages
        simp
      rw [text, recognize?_eq (readWindow_summarize today _) (readAggregate?_append function m.chars),
        ofAggregate?_dateTrunc m.toList_ne_nil unit t.chars, String.ofList_toList,
        String.ofList_toList]
  | filtering operation context predicate => exact absurd rfl kind
  | aggregation metric dimension function =>
      have d : IsFieldName dimension := named _ (by simp [Intent.fields])
      have m : IsFieldName metric := named _ (by simp [Intent.fields])
      have text : (stages limit today (.aggregation metric dimension function)).toList =
          "SUMMARIZE ".toList ++ (function.name.toList ++ '(' :: (metric.toList ++ ')' ::
            (" BY ".toList ++ dimension.toList))) := by
        unfold stages
        simp
      rw [text, recognize?_eq (readWindow_summarize today _) (readAggregate?_append function m.chars),
        ofAggregate?_word m.toList_ne_nil d.chars, String.ofList_toList, String.ofList_toList]
  | counting window groupBy =>
      have text : (stages limit today (.counting window groupBy)).toList =
          ((window.map (windowClause today)).getD "").toList ++ ("SUMMARIZE ".toList ++
            (AggregateFunction.count.name.toList ++ '(' :: ([] ++ ')' ::
              ((groupBy.map (" BY " ++ ·)).getD "").toList))) := by
        unfold stages
        simp [AggregateFunction.name]
      -- a count has no metric, which no other aggregate lacks
      rw [text, recognize?_eq (readWindow_append later window _)
        (readAggregate?_append .count (by simp))]
      cases groupBy with
      | none => rfl
      | some group =>
          have g : IsFieldName group := named _ (by simp [Intent.fields])
          have text : ((some group).map (" BY " ++ ·)).getD "" = " BY " ++ group := rfl
          rw [text, String.toList_append, ofAggregate?_group g.chars g.toList_ne_nil,
            String.ofList_toList]

/-- Only on the first day of the calendar do today and yesterday have the same clause. -/
theorem windowClause_eq_iff_first {today : Date} :
    windowClause today .today = windowClause today .yesterday ↔ today = .first := by
  constructor
  · intro same
    by_contra later
    obtain ⟨yesterday, before, other⟩ := Date.exists_previous later
    have days := text_eq_of_dayClause_eq same
    rw [before, Option.getD_some] at days
    exact other (Date.text_injective days).symm
  · intro first
    have none := Date.previous?_eq_none_iff.mpr first
    rw [windowClause, windowClause, none, Option.getD_none]

/-! ### Days that follow one another -/

section

variable {day next other : Date}

/-- Yesterday is the day that this day is the next of. -/
theorem windowClause_yesterday (follows : day.IsNext next) :
    windowClause next .yesterday = windowClause day .today := by
  have before : next.previous? = some day := Date.previous?_eq_some_iff.mpr follows
  simp only [windowClause, before, Option.getD_some]

/-- The clauses of two days differ, whatever stands behind them. -/
theorem toList_windowClause_append_ne (differ : day ≠ other) (rest rest' : List Char) :
    (windowClause day .today).toList ++ rest ≠ (windowClause other .today).toList ++ rest' := by
  intro same
  have read := readWindow_dayClause day day rest
  have read' := readWindow_dayClause day other rest'
  rw [if_pos rfl] at read
  rw [if_neg differ.symm, ← windowClause, ← same, windowClause, read] at read'
  cases (Prod.mk.inj read').1

theorem ofIntent_counting (setting : Setting) (window : Window) (group : Option String) :
    ofIntent setting (.counting (some window) group) =
      "FROM '" ++ setting.locator ++ "' | " ++ (windowClause setting.today window ++
        "SUMMARIZE count()" ++ (group.map (" BY " ++ ·)).getD "") :=
  ofIntent_eq setting (.counting (some window) group)

/-- **Yesterday was today a day ago.** The count of yesterday's records is, on the day after a day,
that of today's records on the day itself. On two days today's records are counted by different
queries. And on the first day yesterday is the day itself. -/
theorem counts_of_next_day :
    (∀ day next : Date, (day.next? = some next ↔ day.IsNext next) ∧
      (day.IsNext next → ∀ locator limit group,
        ofIntent ⟨locator, limit, next⟩ (.counting (some .yesterday) group) =
          ofIntent ⟨locator, limit, day⟩ (.counting (some .today) group))) ∧
    (∀ day other : Date, day ≠ other → ∀ locator limit limit' group group',
      ofIntent ⟨locator, limit, day⟩ (.counting (some .today) group) ≠
        ofIntent ⟨locator, limit', other⟩ (.counting (some .today) group')) ∧
    (∀ locator limit group,
      ofIntent ⟨locator, limit, .first⟩ (.counting (some .yesterday) group) =
        ofIntent ⟨locator, limit, .first⟩ (.counting (some .today) group)) := by
  refine ⟨fun day next => ⟨Date.next?_eq_some_iff, fun follows locator limit group => ?_⟩,
    fun day other differ locator limit limit' group group' same => ?_,
    fun locator limit group => ?_⟩
  · rw [ofIntent_counting, ofIntent_counting, windowClause_yesterday follows]
  · rw [ofIntent_counting, ofIntent_counting, String.append_right_inj] at same
    have chars := congrArg String.toList same
    simp only [String.toList_append, List.append_assoc] at chars
    exact toList_windowClause_append_ne differ _ _ chars
  · rw [ofIntent_counting, ofIntent_counting, windowClause_eq_iff_first.mpr rfl]

/-- The last days of a leap year's February, and of the year before the year 0. -/
def leapDay : Date := ⟨0, 2, 29, by decide⟩

def lastBeforeZero : Date := ⟨-1, 12, 31, by decide⟩

theorem counts_of_next_day_leap :
    leapDay.IsNext ⟨0, 3, 1, by decide⟩ ∧
    ofIntent ⟨"s3://b/*", 10, ⟨0, 3, 1, by decide⟩⟩ (.counting (some .yesterday) (some "host")) =
      ofIntent ⟨"s3://b/*", 10, leapDay⟩ (.counting (some .today) (some "host")) ∧
    lastBeforeZero.IsNext ⟨0, 1, 1, by decide⟩ ∧
    leapDay ≠ lastBeforeZero ∧
    ofIntent ⟨"s3://b/*", 10, leapDay⟩ (.counting (some .today) none) ≠
      ofIntent ⟨"s3://b/*", 10, lastBeforeZero⟩ (.counting (some .today) none) := by
  have leap : leapDay.IsNext ⟨0, 3, 1, by decide⟩ := (counts_of_next_day.1 _ _).1.mp (by decide)
  have zero : lastBeforeZero.IsNext ⟨0, 1, 1, by decide⟩ :=
    (counts_of_next_day.1 _ _).1.mp (by decide)
  have differ : leapDay ≠ lastBeforeZero := by decide
  exact ⟨leap, (counts_of_next_day.1 _ _).2 leap _ _ _, zero, differ,
    counts_of_next_day.2.1 _ _ differ _ _ _ _ _⟩

end

/-! ### Questions -/

/-- A listing is not read back: it is the query of no intent. -/
theorem recognize?_listing (today : Date) (limit : Nat) :
    recognize? today ("HEAD " ++ numberText limit).toList = none := by
  simp [recognize?, readWindow, readAggregate?, afterStart?]

/-- **The query of a question determines its intent**, on all days but the first and unless the
question filters: two such questions have the same query exactly when they have the same intent.
And their queries are no plain listings. -/
theorem compile_eq_iff_intent_eq {locator : String} {limit : Nat} {today : Date}
    (later : today ≠ .first) {question question' : String} {intent intent' : Intent}
    (understood : intent? question = some intent) (understood' : intent? question' = some intent')
    (kind : intent.category ≠ .filtering) (kind' : intent'.category ≠ .filtering) :
    (compile ⟨locator, limit, today⟩ question = compile ⟨locator, limit, today⟩ question' ↔
      intent = intent') ∧
    ∀ limit', compile ⟨locator, limit, today⟩ question ≠ listing locator limit' := by
  have read := recognize?_stages later limit (isFieldName_of_mem_fields understood) kind
  have read' := recognize?_stages later limit (isFieldName_of_mem_fields understood') kind'
  rw [compile_of_intent? understood, compile_of_intent? understood', String.append_right_inj]
  refine ⟨⟨fun same => ?_, fun same => congrArg _ same⟩, fun limit' same => ?_⟩
  · rw [same, read'] at read
    exact (Option.some.inj read).symm
  · have stages : stages limit today intent = "HEAD " ++ numberText limit' := by
      have text : listing locator limit' =
          "FROM '" ++ locator ++ "' | " ++ ("HEAD " ++ numberText limit') := by
        rw [← String.toList_inj]
        simp [listing]
      rwa [text, String.append_right_inj] at same
    rw [stages, recognize?_listing] at read
    cases read

/-- Two questions of which only the day differs. -/
def todaysQuestion : String := "How many sign-ins TODAY by Host?"

def yesterdaysQuestion : String := "How many sign-ins yesterday by Host?"

theorem compile_eq_iff_intent_eq_days :
    intent? todaysQuestion = some (.counting (some .today) (some "host")) ∧
    intent? yesterdaysQuestion = some (.counting (some .yesterday) (some "host")) ∧
    compile ⟨"s3://b/it's/*", 10, .epoch⟩ todaysQuestion ≠
      compile ⟨"s3://b/it's/*", 10, .epoch⟩ yesterdaysQuestion := by
  have today : intent? todaysQuestion = some (.counting (some .today) (some "host")) := by
    decide +kernel
  have yesterday : intent? yesterdaysQuestion =
      some (.counting (some .yesterday) (some "host")) := by
    decide +kernel
  have later : Date.epoch ≠ .first := by decide
  refine ⟨today, yesterday, fun same => ?_⟩
  have intents := (compile_eq_iff_intent_eq later today yesterday (by decide) (by decide)).1.mp same
  revert intents
  decide

end Enquiry.Query
