import Enquiry.Proofs.Question.Wording

/-!
# Questions that count in a window

What is counted may be limited to a window and grouped by a field.  The window is found wherever
its phrase stands in what is counted, and the field is everything behind the first `by`
(`intent?_of_counts`).  So the order of the two counts (`windowed_counts`): a window in front of the
`by` leaves the field alone, and **the words of a window behind the field become part of its name**.
-/

namespace Enquiry.Query

open Text Question

variable {ws ds fs : List (List Char)} {question : String} {gap₁ gap₂ entity text : List Char}

/-! ### What is counted -/

/-- What is counted stands behind `how many`. -/
theorem captures?_of_howMany (first : IsGap gap₁) (second : IsGap gap₂) (filled : entity ≠ [])
    (solid : ∀ c ∈ entity.head?, isBlank c = false) (line : '\n' ∉ entity) :
    Category.counting.captures? ("how".toList ++ (gap₁ ++ ("many".toList ++ (gap₂ ++ entity)))) =
      some [(.entity, entity)] := by
  have read : Pattern.find? [say "how", gap, say "many", gap, upToEnd .entity]
      ("how".toList ++ (gap₁ ++ ("many".toList ++ (gap₂ ++ entity)))) =
      some [(.entity, entity)] := by
    refine Pattern.find?_of_attempt ?_
    rw [say, Pattern.attempt_word]
    refine Pattern.attempt_longest first.nonempty first.blank (fun c head => ?_) ?_
    · obtain rfl := Option.some.inj head
      decide
    rw [say, Pattern.attempt_word]
    exact Pattern.attempt_longest second.nonempty second.blank solid (attempt_upToEnd filled line _)
  rw [Category.captures?, Category.patterns, List.findSome?_cons, read]

/-- What is counted is grouped by the field of all words behind the first `by`. -/
theorem groupOf?_of_spaced (spaced : Spaced (ds ++ "by".toList :: fs) entity)
    (words : ∀ w ∈ ds ++ "by".toList :: fs, IsFieldWord w) (line : '\n' ∉ entity)
    (filled : ds ≠ []) (without : "by".toList ∉ ds) (meaning : HasMeaning fs) :
    groupOf? entity = some (nameOf fs) := by
  obtain ⟨front, gap, behind, rfl, between, counted, clause⟩ :=
    spaced.exists_of_append filled (List.cons_ne_nil _ _)
  obtain ⟨gap', field, rfl, between', named⟩ := clause.exists_of_cons meaning.ne_nil
  obtain ⟨wordsFront, wordsBehind⟩ := List.forall_mem_append.mp words
  have wordsField := (List.forall_mem_cons.mp wordsBehind).2
  have solid : ∀ w ∈ fs, IsSolid w := fun w mem => (wordsField w mem).isSolid
  have found := find?_groupClause counted wordsFront without between between'
    (named.text_ne_nil solid) (named.solid_first solid) fun mem => line (by simp [mem])
  rw [groupOf?, found]
  simp only [Option.bind_some, Option.bind_eq_bind, get?_cons, if_true]
  exact (fieldOf?_of_spaced named wordsField).1 meaning

/-- The question is found to count. -/
def Counts (question : String) : Prop := (intent? question).map Intent.category = some .counting

/-- A question in words that counts has the window that is named in what is counted, and the field
of all words behind the first `by`. -/
theorem intent?_of_counts (counts : Counts question)
    (split : question.toList = "how".toList ++ (gap₁ ++ ("many".toList ++ (gap₂ ++ entity))))
    (first : IsGap gap₁) (second : IsGap gap₂) (spaced : Spaced (ds ++ "by".toList :: fs) entity)
    (words : ∀ w ∈ ds ++ "by".toList :: fs, IsFieldWord w) (line : '\n' ∉ entity)
    (filled : ds ≠ []) (without : "by".toList ∉ ds) (meaning : HasMeaning fs) :
    intent? question = some (.counting (Window.find? entity) (some (nameOf fs))) := by
  have solid : ∀ w ∈ ds ++ "by".toList :: fs, IsSolid w := fun w mem => (words w mem).isSolid
  have phrase : phraseOf question = question.toList := by
    have whole : Spaced ("how".toList :: "many".toList :: (ds ++ "by".toList :: fs))
        question.toList := by
      rw [split]
      exact .more first (.more second spaced)
    have how : IsLetterWord "how".toList := isLetterWord_of_all (by decide) (by decide)
    have many : IsLetterWord "many".toList := isLetterWord_of_all (by decide) (by decide)
    exact phraseOf_of_spaced whole (List.forall_mem_cons.mpr
      ⟨how.isFieldWord, List.forall_mem_cons.mpr ⟨many.isFieldWord, words⟩⟩)
  have found : Category.counting.captures? (phraseOf question) = some [(.entity, entity)] := by
    rw [phrase, split]
    exact captures?_of_howMany first second (spaced.text_ne_nil solid) (spaced.solid_first solid)
      line
  obtain ⟨intent, made, kind⟩ := Option.map_eq_some_iff.mp counts
  have earlier := not_occursIn_of_intent? made
  rw [kind] at earlier
  rw [intent?_of_captures? found earlier, Category.intent?]
  simp only [get?_cons, if_true, Option.bind_some, Option.bind_eq_bind,
    groupOf?_of_spaced spaced words line filled without meaning]

/-! ### Windows -/

/-- The word names no single day. -/
def NamesNoDay (w : List Char) : Prop := ¬ "today".toList <:+: w ∧ ¬ "yesterday".toList <:+: w

/-- What a phrase of a window is made of. -/
theorem parts_of_windowPhrases {name : String} {window : Window}
    (named : (name, window) ∈ windowPhrases) :
    partsOf name.toList ≠ [] ∧ List.intercalate [' '] (partsOf name.toList) = name.toList ∧
      (∀ w ∈ partsOf name.toList, IsFieldWord w) ∧ "by".toList ∉ partsOf name.toList ∧
      ∀ w ∈ partsOf name.toList, w ∉ stopWords := by
  have all : ∀ phrase ∈ windowPhrases, partsOf phrase.1.toList ≠ [] ∧
      List.intercalate [' '] (partsOf phrase.1.toList) = phrase.1.toList ∧
      (∀ w ∈ partsOf phrase.1.toList, w ≠ [] ∧ w.all isFieldChar = true) ∧
      "by".toList ∉ partsOf phrase.1.toList ∧ ∀ w ∈ partsOf phrase.1.toList, w ∉ stopWords := by
    decide
  obtain ⟨filled, joined, words, single, meaning⟩ := all _ named
  exact ⟨filled, joined, fun w mem => ⟨(words w mem).1, List.all_eq_true.mp (words w mem).2⟩,
    single, meaning⟩

/-- The window that is found is the one that is named, when the other words name no day. -/
theorem find?_window {name : String} {window : Window} (named : (name, window) ∈ windowPhrases)
    (spaced : Spaced ws text) (words : ∀ w ∈ ws, IsFieldWord w) (occurs : name.toList <:+: text)
    (others : ∀ w ∈ ws, w ∈ partsOf name.toList ∨ NamesNoDay w) :
    Window.find? text = some window := by
  have lowered := lowercase_eq_of_fieldChars (isBlank_or_isFieldChar spaced words)
  have present : occursIn name.toList text = true := occursIn_iff.mpr occurs
  -- a day is named within a word
  have absent : ∀ day : String, IsSolid day.toList →
      (∀ w ∈ partsOf name.toList, occursIn day.toList w = false) →
      (∀ w, NamesNoDay w → ¬ day.toList <:+: w) → occursIn day.toList text = false := by
    intro day solid apart unnamed
    rw [← Bool.not_eq_true]
    intro inside
    obtain ⟨w, mem, within⟩ := spaced.exists_isInfix solid (occursIn_iff.mp inside)
    rcases others w mem with own | other
    · rw [← occursIn_iff, apart w own] at within
      cases within
    · exact unnamed w other within
  have solid : IsSolid "today".toList ∧ IsSolid "yesterday".toList :=
    ⟨(isLetterWord_of_all (by decide) (by decide)).isFieldWord.isSolid,
      (isLetterWord_of_all (by decide) (by decide)).isFieldWord.isSolid⟩
  rw [Window.find?, lowered]
  simp only [windowPhrases, List.mem_cons, List.not_mem_nil, or_false, Prod.mk.injEq] at named
  rcases named with ⟨rfl, rfl⟩ | ⟨rfl, rfl⟩ | ⟨rfl, rfl⟩
  · simp only [windowPhrases, List.find?_cons, present, Option.map_some]
  · have noToday := absent "today" solid.1 (by decide) fun _ other => other.1
    simp only [windowPhrases, List.find?_cons, present, noToday, Option.map_some]
  · have noToday := absent "today" solid.1 (by decide) fun _ other => other.1
    have noYesterday := absent "yesterday" solid.2 (by decide) fun _ other => other.2
    simp only [windowPhrases, List.find?_cons, present, noToday, noYesterday, Option.map_some]

/-! ### Windows and groups -/

/-- Words with one space between each two. -/
def sentence (ws : List (List Char)) : String := String.ofList (List.intercalate [' '] ws)

section

variable {es : List (List Char)} {name : String} {window : Window}

/-- How many of something there are in a window, by a field. -/
def windowFirst (es : List (List Char)) (name : String) (fs : List (List Char)) : String :=
  sentence ("how".toList :: "many".toList ::
    (es ++ partsOf name.toList ++ "by".toList :: fs))

/-- How many of something there are by a field, and then the window. -/
def windowLast (es : List (List Char)) (name : String) (fs : List (List Char)) : String :=
  sentence ("how".toList :: "many".toList :: (es ++ "by".toList :: (fs ++ partsOf name.toList)))

/-- A sentence that counts, with a window that is named somewhere in it. -/
theorem intent?_sentence
    (counts : Counts (sentence ("how".toList :: "many".toList :: (ds ++ "by".toList :: fs))))
    (words : ∀ w ∈ ds ++ "by".toList :: fs,
      IsFieldWord w ∧ (w ∈ partsOf name.toList ∨ NamesNoDay w))
    (filled : ds ≠ []) (without : "by".toList ∉ ds) (meaning : HasMeaning fs)
    (named : (name, window) ∈ windowPhrases)
    (occurs : List.intercalate [' '] (partsOf name.toList) <:+:
      List.intercalate [' '] (ds ++ "by".toList :: fs)) :
    intent? (sentence ("how".toList :: "many".toList :: (ds ++ "by".toList :: fs))) =
      some (.counting (some window) (some (nameOf fs))) := by
  have blank : isBlank ' ' = true := by decide
  have fieldWords : ∀ w ∈ ds ++ "by".toList :: fs, IsFieldWord w := fun w mem => (words w mem).1
  obtain ⟨d, rest, first⟩ : ∃ d rest, ds ++ "by".toList :: fs = d :: rest :=
    List.exists_cons_of_ne_nil (by simp)
  have split : (sentence ("how".toList :: "many".toList :: (ds ++ "by".toList :: fs))).toList =
      "how".toList ++ ([' '] ++ ("many".toList ++
        ([' '] ++ List.intercalate [' '] (ds ++ "by".toList :: fs)))) := by
    rw [sentence, String.toList_ofList, List.intercalate_cons_cons, List.append_assoc, first,
      List.intercalate_cons_cons, List.append_assoc]
  have spaced : Spaced (ds ++ "by".toList :: fs)
      (List.intercalate [' '] (ds ++ "by".toList :: fs)) :=
    .intercalate blank (by simp)
  have line : '\n' ∉ List.intercalate [' '] (ds ++ "by".toList :: fs) := by
    intro mem
    rcases mem_intercalate mem with between | ⟨w, part, inside⟩
    · exact absurd between (by decide)
    · exact absurd ((fieldWords w part).chars '\n' inside) (by decide)
  rw [(parts_of_windowPhrases named).2.1] at occurs
  rw [intent?_of_counts counts split (isGap_singleton blank) (isGap_singleton blank) spaced
    fieldWords line filled without meaning,
    find?_window named spaced fieldWords occurs fun w mem => (words w mem).2]

/-- **A window in front of the `by` leaves the grouping field alone; behind it, its words become
part of the name of the field.**  So the two questions never mean the same. -/
theorem windowed_counts (words : ∀ w ∈ es ++ fs, IsLetterWord w ∧ NamesNoDay w)
    (without : "by".toList ∉ es ++ fs) (filled : es ≠ []) (meaning : HasMeaning fs)
    (named : (name, window) ∈ windowPhrases)
    (first : Counts (windowFirst es name fs)) (last : Counts (windowLast es name fs)) :
    intent? (windowFirst es name fs) =
      some (.counting (some window) (some (nameOf fs))) ∧
    intent? (windowLast es name fs) =
      some (.counting (some window) (some (nameOf (fs ++ partsOf name.toList)))) ∧
    nameOf (fs ++ partsOf name.toList) ≠ nameOf fs := by
  obtain ⟨phrase, -, phraseWords, phraseBy, kept⟩ := parts_of_windowPhrases named
  rw [List.mem_append, not_or] at without
  -- the words of both questions
  have asked : ∀ ws ⊆ es ++ fs, ∀ w ∈ ws,
      IsFieldWord w ∧ (w ∈ partsOf name.toList ∨ NamesNoDay w) := fun ws part w mem =>
    ⟨(words w (part mem)).1.isFieldWord, .inr (words w (part mem)).2⟩
  have counted := asked es (List.subset_append_left es fs)
  have grouped := asked fs (List.subset_append_right es fs)
  have phrased : ∀ w ∈ partsOf name.toList,
      IsFieldWord w ∧ (w ∈ partsOf name.toList ∨ NamesNoDay w) := fun w mem =>
    ⟨phraseWords w mem, .inl mem⟩
  have isBy : IsFieldWord "by".toList ∧
      ("by".toList ∈ partsOf name.toList ∨ NamesNoDay "by".toList) := by
    refine ⟨isLetterWord_by.isFieldWord, .inr ?_⟩
    rw [NamesNoDay, ← occursIn_iff, ← occursIn_iff]
    decide
  -- the phrase of the window stands in both
  have inFirst := intercalate_isInfix [' '] phrase es ("by".toList :: fs)
  have inLast := intercalate_isInfix [' '] phrase (es ++ "by".toList :: fs) []
  rw [← List.append_assoc] at inFirst
  rw [List.append_nil, List.append_assoc, List.cons_append] at inLast
  refine ⟨?_, ?_, nameOf_append_ne meaning phrase kept⟩
  · refine intent?_sentence first ?_ (by simp [filled]) ?_ meaning named inFirst
    · exact List.forall_mem_append.mpr ⟨List.forall_mem_append.mpr ⟨counted, phrased⟩,
        List.forall_mem_cons.mpr ⟨isBy, grouped⟩⟩
    · exact fun mem => (List.mem_append.mp mem).elim without.1 phraseBy
  · obtain ⟨w, mem, own⟩ := meaning
    refine intent?_sentence last ?_ filled without.1 ⟨w, List.mem_append_left _ mem, own⟩ named
      inLast
    exact List.forall_mem_append.mpr ⟨counted,
      List.forall_mem_cons.mpr ⟨isBy, List.forall_mem_append.mpr ⟨grouped, phrased⟩⟩⟩

end

/-- The orders of today by region: the words of what is counted and of the field. -/
def orderWords : List (List Char) := ["orders".toList]

def regionWords : List (List Char) := ["the".toList, "region".toList]

theorem intent?_orders :
    intent? (windowFirst orderWords "today" regionWords) =
      some (.counting (some .today) (some "region")) ∧
    intent? (windowLast orderWords "today" regionWords) =
      some (.counting (some .today) (some "region_today")) := by decide +kernel

theorem words_orders : (∀ w ∈ orderWords ++ regionWords, IsLetterWord w ∧ NamesNoDay w) ∧
    "by".toList ∉ orderWords ++ regionWords ∧ orderWords ≠ [] ∧ HasMeaning regionWords := by
  refine ⟨fun w mem => ?_, by decide, by decide, "region".toList, by decide, by decide⟩
  have all : ∀ w ∈ orderWords ++ regionWords,
      (w ≠ [] ∧ (w.all fun c => decide (('a' ≤ c ∧ c ≤ 'z') ∨ c = '_')) = true) ∧
      occursIn "today".toList w = false ∧ occursIn "yesterday".toList w = false := by decide
  obtain ⟨⟨filled, letters⟩, noToday, noYesterday⟩ := all w mem
  refine ⟨isLetterWord_of_all filled letters, ?_⟩
  rw [NamesNoDay, ← occursIn_iff, ← occursIn_iff, noToday, noYesterday]
  exact ⟨Bool.false_ne_true, Bool.false_ne_true⟩

theorem windowed_counts_orders :
    Counts (windowFirst orderWords "today" regionWords) ∧
    Counts (windowLast orderWords "today" regionWords) ∧
    intent? (windowLast orderWords "today" regionWords) =
      some (.counting (some .today) (some "region_today")) := by
  obtain ⟨words, without, filled, meaning⟩ := words_orders
  have first : Counts (windowFirst orderWords "today" regionWords) := by
    rw [Counts, intent?_orders.1]
    rfl
  have last : Counts (windowLast orderWords "today" regionWords) := by
    rw [Counts, intent?_orders.2]
    rfl
  have named : ("today", Window.today) ∈ windowPhrases := by decide
  refine ⟨first, last, (windowed_counts words without filled meaning named first last).2.1.trans ?_⟩
  decide

/-- The order of a window and a group does count. -/
theorem not_windowFirst_eq_windowLast :
    ¬ ∀ (es fs : List (List Char)) (name : String) (window : Window),
      (∀ w ∈ es ++ fs, IsLetterWord w ∧ NamesNoDay w) → "by".toList ∉ es ++ fs → es ≠ [] →
      HasMeaning fs → (name, window) ∈ windowPhrases → Counts (windowFirst es name fs) →
      Counts (windowLast es name fs) →
      intent? (windowFirst es name fs) = intent? (windowLast es name fs) := by
  intro same
  obtain ⟨words, without, filled, meaning⟩ := words_orders
  have e := same orderWords regionWords "today" .today words without filled meaning (by decide)
    (by rw [Counts, intent?_orders.1]; rfl) (by rw [Counts, intent?_orders.2]; rfl)
  rw [intent?_orders.1, intent?_orders.2] at e
  exact absurd e (by decide)

end Enquiry.Query
