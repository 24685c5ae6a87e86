import Enquiry.Proofs.Query.Rendering
import Enquiry.Proofs.Question.Classification
import Enquiry.Proofs.Text.Spaced
import Enquiry.Proofs.Text.Splitting

/-!
# What a query varies with

Two things from outside enter a query besides its question and its source: the day of the clock and
the cap of a listing.  The day counts for the intents of a relative day (`Intent.OfDay`) and for no
others; the cap counts for those that list records (`Intent.Lists`), and for questions that are not
understood.

An intent is of a relative day only when the question names that day: what is counted is a part of
the phrase, and the phrase is in lower case already, so that lower case cannot make a name of it
that was not there (`exists_name_of_intent?`).  Hence **the clock is seen only through a day that
the question names, and the cap only in listings** (`compile_varies_iff`).

Of the question itself only its phrase counts.  Questions that differ in the case of letters of
ASCII, or in the blanks around them (`Alike`), have one phrase whatever other letters they hold, and
so **one intent and one query** (`compile_of_alike`).
-/

namespace Enquiry.Question

open Text

/-- The intent counts the records of today or of yesterday. -/
def Intent.OfDay (intent : Intent) : Prop :=
  ∃ window group, (window = .today ∨ window = .yesterday) ∧ intent = .counting (some window) group

/-- The intent lists the records that pass a filter. -/
def Intent.Lists (intent : Intent) : Prop :=
  ∃ context predicate, intent = .filtering .list context predicate

/-! ### Names of windows -/

/-- A window is found by one of its names. -/
theorem exists_name_of_find? {text : List Char} {window : Window}
    (h : Window.find? text = some window) :
    ∃ name, (name, window) ∈ windowPhrases ∧ name.toList <:+: lowercase text := by
  obtain ⟨⟨name, found⟩, first, rfl⟩ := Option.map_eq_some_iff.mp h
  have occurs : occursIn name.toList (lowercase text) = true := by
    simpa using List.find?_some first
  exact ⟨name, List.mem_of_find?_eq_some first, occursIn_iff.mp occurs⟩

/-- A window that records are counted in has its name in the phrase. -/
theorem exists_name_of_intent? {question : String} {window : Window} {group : Option String}
    (h : intent? question = some (.counting (some window) group)) :
    ∃ name, (name, window) ∈ windowPhrases ∧ name.toList <:+: phraseOf question := by
  obtain ⟨pattern, -, captures, found, made⟩ := exists_captures_of_intent? h
  obtain ⟨entity, got, parts⟩ := Category.intent?_counting made
  obtain ⟨named, -⟩ := Intent.counting.inj parts
  obtain ⟨name, mem, occurs⟩ := exists_name_of_find? named.symm
  have part : entity <:+: phraseOf question := Pattern.infix_of_find? found got
  -- the phrase is in lower case, and so is its part
  rw [lowercase_of_isInfix part] at occurs
  exact ⟨name, mem, occurs.trans part⟩

/-- An intent of a relative day comes from a question that names a relative day. -/
theorem names_day_of_intent? {question : String} {intent : Intent}
    (h : intent? question = some intent) (day : intent.OfDay) :
    "today".toList <:+: phraseOf question ∨ "yesterday".toList <:+: phraseOf question := by
  obtain ⟨window, group, relative, rfl⟩ := day
  obtain ⟨name, mem, occurs⟩ := exists_name_of_intent? h
  rcases relative with rfl | rfl
  · obtain rfl : name = "today" := by simpa [windowPhrases] using mem
    exact .inl occurs
  · obtain rfl : name = "yesterday" := by simpa [windowPhrases] using mem
    exact .inr occurs

/-! ### Questions with one phrase -/

/-- The texts are the same but for the case of letters of ASCII and for the blanks around them. -/
inductive Alike : List Char → List Char → Prop
  | intro {front core back front' core' back' : List Char}
      (letters : core.map Char.toLower = core'.map Char.toLower)
      (before : ∀ c ∈ front, isBlank c = true) (after : ∀ c ∈ back, isBlank c = true)
      (before' : ∀ c ∈ front', isBlank c = true) (after' : ∀ c ∈ back', isBlank c = true) :
      Alike (front ++ (core ++ back)) (front' ++ (core' ++ back'))

/-- Trimming leaves texts that differ in case only, and lower case makes one of them. -/
theorem Alike.lowercase_trim_eq {text text' : List Char} (h : Alike text text') :
    lowercase (trim text) = lowercase (trim text') := by
  obtain ⟨letters, before, after, before', after'⟩ := h
  rw [trim, trim, trimWith_append_append before after, trimWith_append_append before' after',
    ← lowercase_map_toLower, ← lowercase_map_toLower (trimWith isBlank _),
    ← trimWith_map isBlank_toLower, ← trimWith_map isBlank_toLower, letters]

theorem Alike.phraseOf_eq {question other : String} (h : Alike question.toList other.toList) :
    phraseOf question = phraseOf other :=
  h.lowercase_trim_eq

end Enquiry.Question

namespace Enquiry.Query

open Text Question

/-! ### Stages -/

/-- The day does not count but for intents of a relative day. -/
theorem stages_eq_of_not_ofDay {intent : Intent} (h : ¬ intent.OfDay) (limit : Nat)
    (today today' : Date) : stages limit today intent = stages limit today' intent := by
  cases intent with
  | counting window group =>
      cases window with
      | none => rfl
      | some window =>
          cases window with
          | today => exact absurd ⟨.today, group, .inl rfl, rfl⟩ h
          | yesterday => exact absurd ⟨.yesterday, group, .inr rfl, rfl⟩ h
          | last24Hours => rfl
  | topN | timeSeries | filtering | aggregation => rfl

/-- The cap does not count but for intents that list records. -/
theorem stages_eq_of_not_lists {intent : Intent} (h : ¬ intent.Lists) (limit limit' : Nat)
    (today : Date) : stages limit today intent = stages limit' today intent := by
  cases intent with
  | filtering operation context predicate =>
      cases operation with
      | count => rfl
      | list => exact absurd ⟨context, predicate, rfl⟩ h
  | topN | timeSeries | aggregation | counting => rfl

/-- The second and the third day of 1970. -/
def secondDay : Date := ⟨1970, 1, 2, by decide⟩

def thirdDay : Date := ⟨1970, 1, 3, by decide⟩

/-- The clause of a day shows the day. -/
theorem text_eq_of_dayClause_eq {day day' : Date} (h : dayClause day = dayClause day') :
    day.text = day'.text := by
  rwa [dayClause, dayClause, String.append_left_inj, String.append_right_inj] at h

/-- For an intent of a relative day two days differ. -/
theorem stages_ne_of_ofDay {intent : Intent} (h : intent.OfDay) (limit : Nat) :
    stages limit secondDay intent ≠ stages limit thirdDay intent := by
  have days : Date.epoch.text ≠ secondDay.text ∧ secondDay.text ≠ thirdDay.text := by
    constructor <;>
      simp [Date.text, Date.chars, Date.padded, Date.epoch, secondDay, thirdDay, decimal_of_lt,
        digitChar]
  obtain ⟨window, group, rfl | rfl, rfl⟩ := h <;> intro same <;>
    have clauses := (String.append_left_inj _).mp ((String.append_left_inj _).mp same)
  · exact days.2 (text_eq_of_dayClause_eq clauses)
  · -- the day before each of the two
    have before : secondDay.previous? = some .epoch ∧ thirdDay.previous? = some secondDay := by
      decide
    have texts := text_eq_of_dayClause_eq clauses
    rw [before.1, before.2] at texts
    exact days.1 texts

theorem numberText_zero_ne_one : numberText 0 ≠ numberText 1 := by
  simp [numberText, decimal_of_lt, digitChar]

/-- For an intent that lists records two caps differ. -/
theorem stages_ne_of_lists {intent : Intent} (h : intent.Lists) (today : Date) :
    stages 0 today intent ≠ stages 1 today intent := by
  obtain ⟨context, predicate, rfl⟩ := h
  intro same
  have clauses := (String.append_right_inj _).mp same
  exact numberText_zero_ne_one ((String.append_right_inj _).mp clauses)

/-! ### Queries -/

theorem compile_of_intent? {question : String} {intent : Intent}
    (h : intent? question = some intent) (setting : Setting) :
    compile setting question =
      "FROM '" ++ setting.locator ++ "' | " ++ stages setting.limit setting.today intent := by
  rw [compile, h]
  exact ofIntent_eq setting intent

theorem compile_of_intent?_eq_none {question : String} (h : intent? question = none)
    (setting : Setting) : compile setting question = listing setting.locator setting.limit := by
  rw [compile, h]

/-- The query is the same on all days exactly when the question is not of a relative day. -/
theorem compile_same_on_all_days_iff {question : String} :
    (∀ locator limit today today',
      compile ⟨locator, limit, today⟩ question = compile ⟨locator, limit, today'⟩ question) ↔
    ∀ intent, intent? question = some intent → ¬ intent.OfDay := by
  constructor
  · intro same intent understood day
    have e := same "" 0 secondDay thirdDay
    rw [compile_of_intent? understood, compile_of_intent? understood, String.append_right_inj] at e
    exact stages_ne_of_ofDay day 0 e
  · intro h locator limit today today'
    cases understood : intent? question with
    | none => rw [compile_of_intent?_eq_none understood, compile_of_intent?_eq_none understood]
    | some intent =>
        rw [compile_of_intent? understood, compile_of_intent? understood,
          stages_eq_of_not_ofDay (h intent understood)]

/-- The query is the same under all caps exactly when the question is understood and lists
nothing. -/
theorem compile_same_under_all_caps_iff {question : String} :
    (∀ locator limit limit' today,
      compile ⟨locator, limit, today⟩ question = compile ⟨locator, limit', today⟩ question) ↔
    ∃ intent, intent? question = some intent ∧ ¬ intent.Lists := by
  constructor
  · intro same
    have e := same "" 0 1 .epoch
    cases understood : intent? question with
    | none =>
        rw [compile_of_intent?_eq_none understood, compile_of_intent?_eq_none understood] at e
        exact absurd ((String.append_right_inj _).mp e) numberText_zero_ne_one
    | some intent =>
        rw [compile_of_intent? understood, compile_of_intent? understood,
          String.append_right_inj] at e
        exact ⟨intent, rfl, fun lists => stages_ne_of_lists lists .epoch e⟩
  · rintro ⟨intent, understood, h⟩ locator limit limit' today
    rw [compile_of_intent? understood, compile_of_intent? understood,
      stages_eq_of_not_lists h limit limit']

/-- **What a query varies with.**  A question that names no relative day has one query for all
days; in general, the day counts exactly for the questions of a relative day.  The cap counts
exactly for the questions that are not understood and those that list records. -/
theorem compile_varies_iff :
    (∀ question, ¬ "today".toList <:+: phraseOf question →
      ¬ "yesterday".toList <:+: phraseOf question → ∀ locator limit today today',
        compile ⟨locator, limit, today⟩ question = compile ⟨locator, limit, today'⟩ question) ∧
    (∀ question,
      (∀ locator limit today today',
        compile ⟨locator, limit, today⟩ question = compile ⟨locator, limit, today'⟩ question) ↔
      ∀ intent, intent? question = some intent → ¬ intent.OfDay) ∧
    (∀ question,
      (∀ locator limit limit' today,
        compile ⟨locator, limit, today⟩ question = compile ⟨locator, limit', today⟩ question) ↔
      ∃ intent, intent? question = some intent ∧ ¬ intent.Lists) := by
  refine ⟨fun question noToday noYesterday => ?_, fun _ => compile_same_on_all_days_iff,
    fun _ => compile_same_under_all_caps_iff⟩
  refine compile_same_on_all_days_iff.mpr fun intent understood day => ?_
  rcases names_day_of_intent? understood day with named | named
  · exact noToday named
  · exact noYesterday named

/-- A question that counts the records of a window in capitals, with a sign that becomes a `k`. -/
def windowedQuestion : String := "How many LOGINS to \u212Aafka in the LAST 24 HOURS by Host?"

theorem compile_varies_iff_windowed :
    ¬ "today".toList <:+: phraseOf windowedQuestion ∧
    ¬ "yesterday".toList <:+: phraseOf windowedQuestion ∧
    compile ⟨"s3://b/*", 10, secondDay⟩ windowedQuestion =
      compile ⟨"s3://b/*", 10, thirdDay⟩ windowedQuestion := by
  have phrase : phraseOf windowedQuestion =
      "how many logins to kafka in the last 24 hours by host?".toList := by decide +kernel
  have noToday : ¬ "today".toList <:+: phraseOf windowedQuestion := by
    rw [phrase, ← occursIn_iff]
    decide
  have noYesterday : ¬ "yesterday".toList <:+: phraseOf windowedQuestion := by
    rw [phrase, ← occursIn_iff]
    decide
  exact ⟨noToday, noYesterday,
    compile_varies_iff.1 windowedQuestion noToday noYesterday "s3://b/*" 10 secondDay thirdDay⟩

/-! ### Questions that are alike -/

/-- **Case and blanks around a question do not count.**  Questions that differ only in the case of
letters of ASCII and in the blanks around them mean the same and have the same query. -/
theorem compile_of_alike {question other : String} (alike : Alike question.toList other.toList) :
    intent? question = intent? other ∧
      ∀ setting, compile setting question = compile setting other := by
  have same : intent? question = intent? other := by
    rw [intent?, intent?, alike.phraseOf_eq]
  refine ⟨same, fun setting => ?_⟩
  rw [compile, compile, same]

/-- A filter with a sigma that takes its final form behind a letter of ASCII. -/
def loudQuestion : String := "\u2003LIST Calls FROM eu WHERE Name IS ΑBΣ\u00a0\n"

def quietQuestion : String := "list calls From EU where name is ΑbΣ"

theorem compile_of_alike_sigma :
    Alike loudQuestion.toList quietQuestion.toList ∧
    intent? loudQuestion = some (.filtering .list "eu" "name is αbς") ∧
    intent? loudQuestion = intent? quietQuestion ∧
    compile ⟨"s3://b/*", 10, secondDay⟩ loudQuestion =
      compile ⟨"s3://b/*", 10, secondDay⟩ quietQuestion := by
  have loud : loudQuestion.toList =
      ['\u2003'] ++ ("LIST Calls FROM eu WHERE Name IS ΑBΣ".toList ++ ['\u00a0', '\n']) := by
    decide +kernel
  have quiet : quietQuestion.toList =
      [] ++ ("list calls From EU where name is ΑbΣ".toList ++ []) := by
    decide +kernel
  have same : Alike loudQuestion.toList quietQuestion.toList := by
    rw [loud, quiet]
    exact .intro (by decide) (List.all_eq_true.mp (by decide)) (List.all_eq_true.mp (by decide))
      (List.all_eq_true.mp (by decide)) (List.all_eq_true.mp (by decide))
  have meaning : intent? loudQuestion = some (.filtering .list "eu" "name is αbς") := by
    decide +kernel
  have one := compile_of_alike same
  exact ⟨same, meaning, one.1, one.2 _⟩

end Enquiry.Query
