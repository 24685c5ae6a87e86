import Enquiry.Proofs.Question.FieldName

/-!
# The name of some words

Words of field characters have the name that has `_` between those that are no stop words
(`nameOf`).  **A text of such words means their name** (`fieldOf?_of_spaced`), whatever blanks stand
between them: one pass finds it, as it is no stop word itself (`intercalate_not_mem_stopWords`).  When
all words are stop words, it means no field.

Capitals of ASCII change nothing.  The first pass begins with lower case, so a phrase has the name
that it has in lower case (`fieldChars_lowercase`), and there its words are those of the phrase in
lower case.  So **the name of a phrase of words** is the name of the words in lower case, with any
blanks between and around them (`fieldName_of_spread`): stop words are left out only as whole words.
-/

namespace Enquiry.Question

open Text

/-- A word whose characters may stand in the name of a field. -/
structure IsFieldWord (w : List Char) : Prop where
  nonempty : w ≠ []
  chars : ∀ c ∈ w, isFieldChar c = true

/-- A word of lowercase ASCII letters and `_`. -/
structure IsLetterWord (w : List Char) : Prop where
  nonempty : w ≠ []
  letters : ∀ c ∈ w, ('a' ≤ c ∧ c ≤ 'z') ∨ c = '_'

/-- Some of the words are no stop words. -/
def HasMeaning (ws : List (List Char)) : Prop := ∃ w ∈ ws, w ∉ stopWords

/-- The words that are no stop words, with `_` between each two. -/
def nameOf (ws : List (List Char)) : String :=
  String.ofList (List.intercalate ['_'] (ws.filter fun w => !stopWords.contains w))

variable {c : Char} {w text : List Char} {ws : List (List Char)}

theorem HasMeaning.ne_nil (h : HasMeaning ws) : ws ≠ [] := by
  rintro rfl
  obtain ⟨w, mem, -⟩ := h
  cases mem

theorem IsFieldWord.isSolid (h : IsFieldWord w) : IsSolid w :=
  ⟨h.nonempty, fun c mem => not_isBlank_of_isFieldChar (h.chars c mem)⟩

theorem IsLetterWord.isFieldWord (h : IsLetterWord w) : IsFieldWord w := by
  refine ⟨h.nonempty, fun c mem => ?_⟩
  rcases h.letters c mem with ⟨low, high⟩ | rfl
  · simp [isFieldChar, low, high]
  · rfl

theorem isLetterWord_of_all (nonempty : w ≠ [])
    (all : (w.all fun c => decide (('a' ≤ c ∧ c ≤ 'z') ∨ c = '_')) = true) : IsLetterWord w :=
  ⟨nonempty, fun c mem => of_decide_eq_true (List.all_eq_true.mp all c mem)⟩

theorem isLetterWord_by : IsLetterWord "by".toList := isLetterWord_of_all (by decide) (by decide)

/-- There are no digits in such a word. -/
theorem IsLetterWord.isAsciiDigit_eq_false (h : IsLetterWord w) (mem : c ∈ w) :
    isAsciiDigit c = false := by
  rcases h.letters c mem with ⟨low, -⟩ | rfl
  · have high : ¬ c ≤ '9' := fun high => absurd (Char.le_trans low high) (by decide)
    simp [isAsciiDigit, high]
  · rfl

theorem isBlank_or_isFieldChar (h : Spaced ws text) (words : ∀ w ∈ ws, IsFieldWord w) :
    ∀ c ∈ text, isBlank c = true ∨ isFieldChar c = true :=
  h.forall_mem (fun w mem c inside => .inr ((words w mem).chars c inside)) fun _ => .inl

/-! ### The name -/

/-- Some words that are no stop words do not make one. -/
theorem intercalate_not_mem_stopWords (h : ∀ w ∈ ws, w ∉ stopWords) :
    List.intercalate ['_'] ws ∉ stopWords := by
  match ws, h with
  | [], _ => decide
  | [w], h => simpa using h w (List.mem_singleton_self w)
  | w :: v :: ws, _ =>
      intro stop
      have plain : ∀ w ∈ stopWords, '_' ∉ w := by decide
      refine plain _ stop ?_
      rw [List.intercalate_cons_cons, List.append_assoc]
      simp

/-- **The name of some words.** -/
theorem fieldChars_eq_intercalate (h : ∀ c ∈ text, isBlank c = true ∨ isFieldChar c = true) :
    fieldChars text =
      List.intercalate ['_'] ((partsOf text).filter fun w => !stopWords.contains w) := by
  have chars : ∀ c ∈ cleanOnce text, isFieldChar c = true := fun _ => isFieldChar_of_mem_cleanOnce
  rw [fieldChars_eq, cleanOnce_of_isFieldChar chars, cleanOnce_eq_intercalate h, if_neg]
  exact intercalate_not_mem_stopWords (by simp)

/-- The name of a text of words is there when some of them are no stop words. -/
theorem fieldOf?_of_spaced (h : Spaced ws text) (words : ∀ w ∈ ws, IsFieldWord w) :
    (HasMeaning ws → fieldOf? text = some (nameOf ws)) ∧
    (¬ HasMeaning ws → fieldOf? text = none) := by
  have name := fieldChars_eq_intercalate (isBlank_or_isFieldChar h words)
  rw [h.partsOf_eq fun w mem => (words w mem).isSolid] at name
  constructor
  · rintro ⟨w, mem, meaning⟩
    have kept : w ∈ ws.filter fun w => !stopWords.contains w :=
      List.mem_filter.mpr ⟨mem, by simpa using meaning⟩
    obtain ⟨c, cs, rfl⟩ := List.exists_cons_of_ne_nil (words w mem).nonempty
    have some : List.intercalate ['_'] (ws.filter fun w => !stopWords.contains w) ≠ [] :=
      List.ne_nil_of_mem (mem_intercalate_of_mem kept List.mem_cons_self)
    rw [fieldOf?, name]
    simp only [List.isEmpty_iff, if_neg some]
    rfl
  · intro none
    have empty : (ws.filter fun w => !stopWords.contains w) = [] := by
      rw [List.filter_eq_nil_iff]
      intro w mem kept
      exact none ⟨w, mem, by simpa using kept⟩
    rw [fieldOf?, name, empty]
    rfl

/-- More words make another name. -/
theorem nameOf_append_ne {vs : List (List Char)} (meaning : HasMeaning ws) (some : vs ≠ [])
    (kept : ∀ w ∈ vs, w ∉ stopWords) : nameOf (ws ++ vs) ≠ nameOf ws := by
  obtain ⟨w, mem, own⟩ := meaning
  have front : (ws.filter fun w => !stopWords.contains w) ≠ [] :=
    List.ne_nil_of_mem (List.mem_filter.mpr ⟨mem, by simpa using own⟩)
  have all : (vs.filter fun w => !stopWords.contains w) = vs :=
    List.filter_eq_self.mpr fun w mem => by simpa using kept w mem
  intro same
  have chars := congrArg String.toList same
  rw [nameOf, nameOf, String.toList_ofList, String.toList_ofList, List.filter_append, all,
    intercalate_append _ front some] at chars
  simpa using congrArg List.length chars

/-! ### Words with capitals -/

/-- A word of ASCII letters, ASCII digits and `_`. -/
structure IsAsciiWord (w : List Char) : Prop where
  nonempty : w ≠ []
  chars : ∀ c ∈ w, isAsciiWord c = true

theorem isFieldChar_toLower (h : isAsciiWord c = true) : isFieldChar c.toLower = true := by
  cases upper : isAsciiUpper c with
  | false =>
      rw [toLower_of_not_isAsciiUpper upper]
      unfold isAsciiUpper at upper
      simpa [isAsciiWord, upper, isFieldChar] using h
  | true =>
      have bounds := isAsciiUpper_iff.mp upper
      rw [isFieldChar_iff, toNat_toLower upper]
      omega

theorem toNat_lt_of_isAsciiWord (h : isAsciiWord c = true) : c.toNat < 0x80 := by
  cases upper : isAsciiUpper c with
  | false =>
      have field := isFieldChar_toLower h
      rw [toLower_of_not_isAsciiUpper upper] at field
      exact (isPlain_of_isFieldChar field).1
  | true =>
      have bounds := isAsciiUpper_iff.mp upper
      omega

theorem IsAsciiWord.isFieldWord (h : IsAsciiWord w) : IsFieldWord (w.map Char.toLower) :=
  ⟨by simpa using h.nonempty,
    List.forall_mem_map.mpr fun c mem => isFieldChar_toLower (h.chars c mem)⟩

/-- The first pass begins with lower case, so a phrase has the name that it has in lower case. -/
theorem fieldChars_lowercase (text : List Char) : fieldChars (lowercase text) = fieldChars text := by
  have once : cleanOnce (lowercase text) = cleanOnce text := by
    rw [cleanOnce, lowercase_of_isInfix List.infix_rfl, cleanOnce]
  rw [fieldChars_eq, fieldChars_eq, once]

theorem lowercase_of_spread (spread : Spread ws text) (words : ∀ w ∈ ws, IsAsciiWord w) :
    lowercase text = text.map Char.toLower := by
  -- blanks beyond ASCII are no letters either
  refine lowercase_eq_map (spread.forall_mem (fun w mem c inside => ?_) fun c blank => ?_)
  · have ascii := toNat_lt_of_isAsciiWord ((words w mem).chars c inside)
    refine ⟨?_, lowercaseChar_of_lt ascii⟩
    rintro rfl
    exact absurd ascii (by decide)
  · have lowered := isLowered_of_isBlank blank
    exact ⟨lowered.ne_sigma, by rw [lowered.char, toLower_of_isBlank blank]⟩

theorem fieldName_eq_nameOf {phrase : String} (spread : Spread ws phrase.toList)
    (words : ∀ w ∈ ws, IsAsciiWord w) :
    fieldName phrase = nameOf (ws.map (List.map Char.toLower)) := by
  have lower : Spread (ws.map (List.map Char.toLower)) (phrase.toList.map Char.toLower) :=
    spread.map fun c blank => by rw [toLower_of_isBlank blank]; exact blank
  have fields : ∀ w ∈ ws.map (List.map Char.toLower), IsFieldWord w :=
    List.forall_mem_map.mpr fun w mem => (words w mem).isFieldWord
  have chars : ∀ c ∈ phrase.toList.map Char.toLower, isBlank c = true ∨ isFieldChar c = true :=
    lower.forall_mem (fun w mem c inside => .inr ((fields w mem).chars c inside)) fun _ => .inl
  rw [fieldName, ← fieldChars_lowercase, lowercase_of_spread spread words,
    fieldChars_eq_intercalate chars, lower.partsOf_eq fun w mem => (fields w mem).isSolid, nameOf]

/-- A word that is no stop word stands whole in the name. -/
theorem isInfix_nameOf (mem : w ∈ ws) (own : w ∉ stopWords) : w <:+: (nameOf ws).toList := by
  have kept : w ∈ ws.filter fun w => !stopWords.contains w :=
    List.mem_filter.mpr ⟨mem, by simpa using own⟩
  obtain ⟨before, after, split⟩ := List.append_of_mem kept
  have inside := intercalate_isInfix ['_'] (List.cons_ne_nil w []) before after
  rw [nameOf, String.toList_ofList, split]
  simpa using inside

/-- Only stop words leave the name empty. -/
theorem nameOf_eq_empty_iff (words : ∀ w ∈ ws, w ≠ []) :
    nameOf ws = "" ↔ ∀ w ∈ ws, w ∈ stopWords := by
  constructor
  · intro empty w mem
    refine Decidable.byContradiction fun own => ?_
    have inside := isInfix_nameOf mem own
    rw [empty] at inside
    exact words w mem (List.eq_nil_of_infix_nil inside)
  · intro all
    have none : (ws.filter fun w => !stopWords.contains w) = [] :=
      List.filter_eq_nil_iff.mpr fun w mem => by simpa using all w mem
    rw [nameOf, none]
    rfl

/-- The only stop word with another in it is `an`. -/
theorem eq_an_of_isInfix {stop : List Char} (mem : w ∈ stopWords) (mem' : stop ∈ stopWords)
    (inside : stop <:+: w) (longer : w ≠ stop) : w = "an".toList := by
  have table : ∀ w ∈ stopWords, ∀ stop ∈ stopWords,
      occursIn stop w = true → w ≠ stop → w = "an".toList := by decide
  exact table w mem stop mem' (occursIn_iff.mpr inside) longer

/-- **The name of a phrase of words, in capitals or not,** has the words in lower case that are no
stop words, in their order, with one `_` between each two: it does not matter how many blanks stand
between the words and around them, nor where among them the stop words stand. The name is empty when
no word is left. A stop word inside of a longer word is kept with it, before or behind a `_` as well
as between letters; the word `an`, which has an `a` in it, is a stop word itself. -/
theorem fieldName_of_spread {phrase : String} (spread : Spread ws phrase.toList)
    (words : ∀ w ∈ ws, IsAsciiWord w) :
    (fieldName phrase).toList = List.intercalate ['_']
        ((ws.map (List.map Char.toLower)).filter fun w => !stopWords.contains w) ∧
      (fieldName phrase = "" ↔ ∀ w ∈ ws, w.map Char.toLower ∈ stopWords) ∧
      ∀ w ∈ ws, ∀ stop ∈ stopWords, stop <:+: w.map Char.toLower → w.map Char.toLower ≠ stop →
        w.map Char.toLower ≠ "an".toList → w.map Char.toLower <:+: (fieldName phrase).toList := by
  rw [fieldName_eq_nameOf spread words]
  refine ⟨String.toList_ofList, ?_, fun w mem stop mem' inside longer notAn => ?_⟩
  · rw [nameOf_eq_empty_iff (List.forall_mem_map.mpr fun w mem =>
      (words w mem).isFieldWord.nonempty), List.forall_mem_map]
  · have lower : w.map Char.toLower ∈ ws.map (List.map Char.toLower) := List.mem_map_of_mem mem
    have own : w.map Char.toLower ∉ stopWords := fun isStop =>
      notAn (eq_an_of_isInfix isStop mem' inside longer)
    exact isInfix_nameOf lower own

/-- Words with stop words in a row, at both ends and inside of longer words. -/
def mixedWords : List (List Char) := ["The", "OF_total", "an", "a", "Theme", "BY"].map String.toList

/-- The words of `mixedWords` among blanks of several kinds. -/
def mixedPhrase : String := "\u2003The OF_total\tan  a Theme BY\n"

theorem fieldName_of_spread_mixedPhrase :
    Spread mixedWords mixedPhrase.toList ∧ (∀ w ∈ mixedWords, IsAsciiWord w) ∧
      (fieldName mixedPhrase).toList = "of_total_theme".toList := by
  have gap : ∀ gap : List Char, gap ≠ [] → gap.all isBlank = true → IsGap gap :=
    fun _ nonempty all => ⟨nonempty, List.all_eq_true.mp all⟩
  have chars : mixedPhrase.toList = ['\u2003'] ++ (("The".toList ++ ([' '] ++ ("OF_total".toList ++
      (['\t'] ++ ("an".toList ++ ([' ', ' '] ++ ("a".toList ++ ([' '] ++ ("Theme".toList ++
      ([' '] ++ "BY".toList)))))))))) ++ ['\n']) := by decide
  have spread : Spread mixedWords mixedPhrase.toList := by
    rw [chars]
    refine .words (gap ['\u2003'] (by decide) (by decide)).blank ?_
      (gap ['\n'] (by decide) (by decide)).blank
    exact .more (gap _ (by decide) (by decide)) <| .more (gap _ (by decide) (by decide)) <|
      .more (gap _ (by decide) (by decide)) <| .more (gap _ (by decide) (by decide)) <|
      .more (gap _ (by decide) (by decide)) <| .last "BY".toList
  have words : ∀ w ∈ mixedWords, IsAsciiWord w := by
    have all : ∀ w ∈ mixedWords, w ≠ [] ∧ w.all isAsciiWord = true := by decide
    exact fun w mem => ⟨(all w mem).1, List.all_eq_true.mp (all w mem).2⟩
  exact ⟨spread, words, (fieldName_of_spread spread words).1.trans (by decide)⟩

end Enquiry.Question
