import Enquiry.Proofs.Text.Spaced
import Enquiry.Question.Classify

/-!
# Field names

Dropping stop words leaves the blanks where they are, so of the parts of a text of words those are
left that are no stop words (`partsOf_dropStopWords`).  Joining the blanks of what is left writes
one `_` between its parts, however long the runs of blanks have become (`joinBlanks_trim`).  So
**a pass over a text of field characters and blanks** puts `_` between those of its words that are
no stop words (`cleanOnce_eq_intercalate`), and a text of field characters alone is one word, which is
dropped when it is a stop word and stays otherwise (`cleanOnce_of_isFieldChar`).

A pass over any phrase leaves characters of field names only.  Two passes are therefore enough
(`fieldChars_eq`), and what is left is no stop word (`fieldChars_not_mem_stopWords`).
-/

namespace Enquiry.Question

open Text

/-- The name of a field: it is not empty, has only lowercase ASCII letters, ASCII digits and `_`,
and is no stop word. -/
structure IsFieldName (name : String) : Prop where
  nonempty : name ≠ ""
  chars : ∀ c ∈ name.toList, isFieldChar c = true
  not_stopWord : name.toList ∉ stopWords

/-! ### The characters of field names -/

section

variable {c : Char}

theorem isFieldChar_iff :
    isFieldChar c = true ↔ (0x61 ≤ c.toNat ∧ c.toNat ≤ 0x7A) ∨
      (0x30 ≤ c.toNat ∧ c.toNat ≤ 0x39) ∨ c.toNat = 0x5F := by
  have underscore : c = '_' ↔ c.toNat = 0x5F := by
    rw [← Char.toNat_inj]
    rfl
  simp only [isFieldChar, isAsciiDigit, Bool.or_eq_true, Bool.and_eq_true, decide_eq_true_eq,
    beq_iff_eq, underscore, or_assoc]
  rfl

theorem isPlain_of_isFieldChar (h : isFieldChar c = true) : IsPlain c := by
  have bounds := isFieldChar_iff.mp h
  rw [isPlain_iff]
  omega

theorem isWord_of_isFieldChar (h : isFieldChar c = true) : isWord c = true := by
  rw [isWord, if_pos (isPlain_of_isFieldChar h).1]
  simp only [isFieldChar, isAsciiWord, Bool.or_eq_true] at h ⊢
  exact h.imp_left fun h => h.imp_left .inl

theorem not_isBlank_of_isFieldChar (h : isFieldChar c = true) : isBlank c = false := by
  rw [← Bool.not_eq_true]
  intro blank
  have word := isWord_of_isFieldChar h
  rw [isWord_of_isBlank blank] at word
  cases word

/-- Blanks and the characters of field names are in lower case already. -/
theorem lowercase_eq_of_fieldChars {text : List Char}
    (h : ∀ c ∈ text, isBlank c = true ∨ isFieldChar c = true) : lowercase text = text := by
  refine lowercase_of_isLowered fun c mem => ?_
  rcases h c mem with blank | field
  · exact isLowered_of_isBlank blank
  · exact isLowered_of_isPlain (isPlain_of_isFieldChar field)

end

/-! ### Texts without their stop words -/

section

variable {c : Char} {w gap front text behind rest : List Char} {ws : List (List Char)}

/-- Characters of one kind are one span, in front of a span of the other kind. -/
theorem foldr_spanCons {kind : Bool} {later : List (Bool × List Char)} (nonempty : text ≠ [])
    (h : ∀ c ∈ text, isWord c = kind) (border : ∀ span ∈ later.head?, span.1 ≠ kind) :
    text.foldr spanCons later = (kind, text) :: later := by
  induction text with
  | nil => exact absurd rfl nonempty
  | cons c cs ih =>
      obtain ⟨here, others⟩ := List.forall_mem_cons.mp h
      cases cs with
      | nil =>
          cases later with
          | nil => simp [spanCons, here]
          | cons span spans =>
              have other : ¬ kind = span.1 := Ne.symm (border span rfl)
              simp [spanCons, here, other]
      | cons d ds => rw [List.foldr_cons, ih (List.cons_ne_nil d ds) others, spanCons, if_pos here]

/-- Word characters and nothing else are one span. -/
theorem spans_of_isWord (nonempty : text ≠ []) (h : ∀ c ∈ text, isWord c = true) :
    spans text = [(true, text)] :=
  foldr_spanCons nonempty h (by simp)

theorem dropStopWords_of_isWord (h : ∀ c ∈ text, isWord c = true) :
    dropStopWords text = if text ∈ stopWords then [] else text := by
  cases text with
  | nil => rfl
  | cons c cs =>
      rw [dropStopWords, spans_of_isWord (by simp) h]
      by_cases stop : c :: cs ∈ stopWords
      · rw [if_pos stop, List.filter_cons_of_neg (by simpa using stop)]
        rfl
      · rw [if_neg stop, List.filter_cons_of_pos (by simpa using stop)]
        simp

theorem dropStopWords_cons (other : isWord c = false) (text : List Char) :
    dropStopWords (c :: text) = c :: dropStopWords text := by
  rw [dropStopWords, spans, List.foldr_cons, dropStopWords, spans]
  cases List.foldr spanCons [] text with
  | nil => simp [spanCons, other]
  | cons span later =>
      obtain ⟨kind, run⟩ := span
      cases kind <;> simp [spanCons, other]

theorem dropStopWords_blanks_append (blanks : ∀ c ∈ front, isBlank c = true) (text : List Char) :
    dropStopWords (front ++ text) = front ++ dropStopWords text := by
  induction front with
  | nil => rfl
  | cons c front ih =>
      obtain ⟨here, later⟩ := List.forall_mem_cons.mp blanks
      rw [List.cons_append, dropStopWords_cons (isWord_of_isBlank here), ih later, List.cons_append]

theorem dropStopWords_of_isBlank (blanks : ∀ c ∈ text, isBlank c = true) :
    dropStopWords text = text := by
  have kept := dropStopWords_blanks_append blanks []
  rwa [List.append_nil, show dropStopWords [] = [] from rfl, List.append_nil] at kept

theorem exists_head_of_spans {span : Bool × List Char} (h : span ∈ (spans text).head?) :
    ∃ c ∈ text.head?, span.1 = isWord c := by
  cases text with
  | nil => cases h
  | cons c cs =>
      refine ⟨c, rfl, ?_⟩
      rw [spans, List.foldr_cons] at h
      cases later : List.foldr spanCons [] cs with
      | nil =>
          rw [later] at h
          obtain rfl := Option.some.inj h
          rfl
      | cons first others =>
          rw [later, spanCons] at h
          split at h <;> obtain rfl := Option.some.inj h
          next same => exact same.symm
          next => rfl

/-- What follows a word does not count for it. -/
theorem dropStopWords_word_append (nonempty : w ≠ []) (word : ∀ c ∈ w, isWord c = true)
    (border : ∀ c ∈ rest.head?, isWord c = false) :
    dropStopWords (w ++ rest) = dropStopWords w ++ dropStopWords rest := by
  have parted : spans (w ++ rest) = spans w ++ spans rest := by
    rw [spans_of_isWord nonempty word, spans, List.foldr_append]
    refine foldr_spanCons nonempty word fun span first => ?_
    obtain ⟨c, head, kind⟩ := exists_head_of_spans first
    rw [kind, border c head]
    exact Bool.false_ne_true
  rw [dropStopWords, parted, List.filter_append, List.flatMap_append]
  rfl

/-- The parts that a word leaves: itself, unless it is a stop word. -/
theorem partsOf_dropStopWords_word (solid : IsSolid w) (word : ∀ c ∈ w, isWord c = true) :
    partsOf (dropStopWords w) = [w].filter fun w => !stopWords.contains w := by
  rw [dropStopWords_of_isWord word]
  by_cases stop : w ∈ stopWords
  · simp [stop, partsOf_nil]
  · simp [stop, solid.partsOf_eq]

theorem partsOf_dropStopWords_spaced (h : Spaced ws text) (words : ∀ w ∈ ws, IsSolid w)
    (chars : ∀ w ∈ ws, ∀ c ∈ w, isWord c = true) (after : ∀ c ∈ behind, isBlank c = true) :
    partsOf (dropStopWords (text ++ behind)) = ws.filter fun w => !stopWords.contains w := by
  induction h with
  | last w =>
      have word := List.forall_mem_singleton.mp words
      have letters := List.forall_mem_singleton.mp chars
      rw [dropStopWords_word_append word.nonempty letters
          fun c first => isWord_of_isBlank (after c (List.mem_of_head? first)),
        dropStopWords_of_isBlank after, partsOf_append_blanks after,
        partsOf_dropStopWords_word word letters]
  | @more w gap text ws between later ih =>
      obtain ⟨word, others⟩ := List.forall_mem_cons.mp words
      obtain ⟨letters, further⟩ := List.forall_mem_cons.mp chars
      have border : ∀ c ∈ (gap ++ (text ++ behind)).head?, isWord c = false := fun c first =>
        isWord_of_isBlank (between.blank_head _ c first)
      rw [List.append_assoc, List.append_assoc,
        dropStopWords_word_append word.nonempty letters border,
        dropStopWords_blanks_append between.blank, between.partsOf_eq,
        partsOf_dropStopWords_word word letters, ih others further, ← List.filter_append]
      rfl

theorem partsOf_dropStopWords_spread (h : Spread ws text) (words : ∀ w ∈ ws, IsSolid w)
    (chars : ∀ w ∈ ws, ∀ c ∈ w, isWord c = true) :
    partsOf (dropStopWords text) = ws.filter fun w => !stopWords.contains w := by
  cases h with
  | blank blanks =>
      rw [dropStopWords_of_isBlank blanks]
      exact partsOf_append_blanks blanks []
  | words before spaced after =>
      rw [dropStopWords_blanks_append before, partsOf_blanks_append before]
      exact partsOf_dropStopWords_spaced spaced words chars after

/-- **Of the parts of a text of words those are left that are no stop words.** -/
theorem partsOf_dropStopWords (h : ∀ c ∈ text, isBlank c = true ∨ isWord c = true) :
    partsOf (dropStopWords text) = (partsOf text).filter fun w => !stopWords.contains w := by
  refine partsOf_dropStopWords_spread (spread_partsOf text) (fun w => isSolid_of_mem_partsOf)
    fun w mem c inside => ?_
  have solid := (isSolid_of_mem_partsOf mem).solid c inside
  exact (h c (mem_of_mem_partsOf mem inside)).resolve_left (by simp [solid])

/-! ### Blanks joined -/

theorem foldr_joinBlank_solid (h : IsSolid w) (joined : List Char × Bool) :
    w.foldr joinBlank joined = (w ++ joined.1, false) := by
  obtain ⟨nonempty, solid⟩ := h
  induction w with
  | nil => exact absurd rfl nonempty
  | cons c cs ih =>
      obtain ⟨here, later⟩ := List.forall_mem_cons.mp solid
      rw [List.foldr_cons]
      cases cs with
      | nil => simp [joinBlank, here]
      | cons d ds => simp [ih (List.cons_ne_nil d ds) later, joinBlank, here]

theorem foldr_joinBlank_gap (h : IsGap gap) (text : List Char) :
    gap.foldr joinBlank (text, false) = ('_' :: text, true) := by
  obtain ⟨nonempty, blank⟩ := h
  induction gap with
  | nil => exact absurd rfl nonempty
  | cons c cs ih =>
      obtain ⟨here, later⟩ := List.forall_mem_cons.mp blank
      rw [List.foldr_cons]
      cases cs with
      | nil => simp [joinBlank, here]
      | cons d ds => simp [ih (List.cons_ne_nil d ds) later, joinBlank, here]

theorem foldr_joinBlank_spaced (h : Spaced ws text) (words : ∀ w ∈ ws, IsSolid w) :
    text.foldr joinBlank ([], false) = (List.intercalate ['_'] ws, false) := by
  induction h with
  | last w =>
      rw [foldr_joinBlank_solid (List.forall_mem_singleton.mp words)]
      simp
  | @more w gap text ws between later ih =>
      obtain ⟨word, others⟩ := List.forall_mem_cons.mp words
      obtain ⟨v, vs, rfl⟩ := List.exists_cons_of_ne_nil later.ne_nil
      rw [List.foldr_append, List.foldr_append, ih others, foldr_joinBlank_gap between,
        foldr_joinBlank_solid word, List.intercalate_cons_cons, List.append_assoc]
      rfl

theorem joinBlanks_trim_spread (h : Spread ws text) (words : ∀ w ∈ ws, IsSolid w) :
    joinBlanks (trim text) = List.intercalate ['_'] ws := by
  cases h with
  | blank blanks =>
      have gone : (text ++ []).dropWhile isBlank = [] := List.dropWhile_append_of_pos blanks
      rw [List.append_nil] at gone
      rw [trim, trimWith, gone]
      rfl
  | words before spaced after =>
      rw [spaced.trim_eq words before after, joinBlanks, foldr_joinBlank_spaced spaced words]

/-- **Between the parts of a text stands one `_`**, when the blanks around it are gone. -/
theorem joinBlanks_trim (text : List Char) :
    joinBlanks (trim text) = List.intercalate ['_'] (partsOf text) :=
  joinBlanks_trim_spread (spread_partsOf text) fun _ => isSolid_of_mem_partsOf

end

/-! ### Passes -/

theorem isFieldChar_of_mem_cleanOnce {text : List Char} {c : Char} (h : c ∈ cleanOnce text) :
    isFieldChar c = true :=
  (List.mem_filter.mp h).2

/-- **A pass over words** puts `_` between those that are no stop words. -/
theorem cleanOnce_eq_intercalate {text : List Char}
    (h : ∀ c ∈ text, isBlank c = true ∨ isFieldChar c = true) :
    cleanOnce text =
      List.intercalate ['_'] ((partsOf text).filter fun w => !stopWords.contains w) := by
  have word : ∀ c ∈ text, isBlank c = true ∨ isWord c = true := fun c mem =>
    (h c mem).imp_right isWord_of_isFieldChar
  have chars : ∀ c ∈ List.intercalate ['_'] ((partsOf text).filter fun w => !stopWords.contains w),
      isFieldChar c = true := by
    intro c mem
    rcases mem_intercalate mem with between | ⟨w, part, inside⟩
    · obtain rfl := List.mem_singleton.mp between
      decide
    · have mem := (List.mem_filter.mp part).1
      have blank := (isSolid_of_mem_partsOf mem).solid c inside
      exact (h c (mem_of_mem_partsOf mem inside)).resolve_left (by simp [blank])
  rw [cleanOnce, lowercase_eq_of_fieldChars h, joinBlanks_trim, partsOf_dropStopWords word,
    List.filter_eq_self.mpr chars]

/-- **A pass over the characters of field names** drops a stop word and leaves all else. -/
theorem cleanOnce_of_isFieldChar {text : List Char} (h : ∀ c ∈ text, isFieldChar c = true) :
    cleanOnce text = if text ∈ stopWords then [] else text := by
  by_cases none : text = []
  · subst none
    rfl
  · have solid : IsSolid text := ⟨none, fun c mem => not_isBlank_of_isFieldChar (h c mem)⟩
    rw [cleanOnce_eq_intercalate fun c mem => .inr (h c mem), solid.partsOf_eq]
    by_cases stop : text ∈ stopWords
    · simp [stop]
    · simp [stop]

theorem cleanOnce_nil : cleanOnce [] = [] := rfl

theorem cleanUntilStable_nil : ∀ passes, cleanUntilStable passes [] = []
  | 0 => rfl
  | passes + 1 => by rw [cleanUntilStable, cleanOnce_nil, if_pos rfl]

/-- The second pass is the last that can change anything. -/
theorem fieldChars_eq (phrase : List Char) : fieldChars phrase = cleanOnce (cleanOnce phrase) := by
  rw [fieldChars, cleanUntilStable]
  split
  next stable => exact stable.symm
  next unstable =>
      -- the first pass has brought a stop word to light
      have fieldChars : ∀ c ∈ cleanOnce phrase, isFieldChar c = true :=
        fun _ => isFieldChar_of_mem_cleanOnce
      have again := cleanOnce_of_isFieldChar fieldChars
      split at again
      next => rw [again, cleanUntilStable_nil]
      next => exact absurd again unstable

theorem isFieldChar_of_mem_fieldChars {phrase : List Char} {c : Char}
    (h : c ∈ fieldChars phrase) : isFieldChar c = true := by
  rw [fieldChars_eq] at h
  exact isFieldChar_of_mem_cleanOnce h

theorem fieldChars_not_mem_stopWords (phrase : List Char) : fieldChars phrase ∉ stopWords := by
  rw [fieldChars_eq, cleanOnce_of_isFieldChar fun _ => isFieldChar_of_mem_cleanOnce]
  split
  · decide
  · assumption

/-- What a part of a phrase means is the name of a field, if it means anything. -/
theorem isFieldName_of_fieldOf? {part : List Char} {name : String}
    (h : fieldOf? part = some name) : IsFieldName name := by
  obtain ⟨nonempty, rfl⟩ : ¬ (fieldChars part).isEmpty ∧ String.ofList (fieldChars part) = name := by
    simpa [fieldOf?] using h
  refine ⟨fun e => nonempty ?_, ?_, ?_⟩
  · rw [← String.toList_inj, String.toList_ofList] at e
    exact List.isEmpty_iff.mpr e
  · rw [String.toList_ofList]
    exact fun c mem => isFieldChar_of_mem_fieldChars mem
  · rw [String.toList_ofList]
    exact fieldChars_not_mem_stopWords part

/-! ### Passes that end

`Settles text result` says what passes over a text come to when each follows the last until one
changes nothing, with no bound on how many there are.  They always come to an end: a text of
field characters is stable unless it is a stop word, and then the next pass leaves nothing
(`settles_of_isFieldChar`).

**A field name is what the passes over a phrase end in**, and the second of them is the last that
can change anything.  The names are the texts of field characters that are no stop word
(`IsNormal`), and these are the texts that stay as they are (`passes_settle_in_fieldName`).
-/

/-- Passes over a text, one after another, end with a result: that of the first pass that changes
nothing. -/
inductive Settles : List Char → List Char → Prop
  | stable {text : List Char} (same : cleanOnce text = text) : Settles text text
  | again {text result : List Char} (other : cleanOnce text ≠ text)
      (later : Settles (cleanOnce text) result) : Settles text result

/-- A text of characters of field names that is no stop word.  It may be empty. -/
structure IsNormal (name : String) : Prop where
  chars : ∀ c ∈ name.toList, isFieldChar c = true
  not_stopWord : name.toList ∉ stopWords

variable {text result other : List Char}

theorem Settles.unique (h : Settles text result) (h' : Settles text other) : result = other := by
  induction h with
  | stable same =>
      cases h' with
      | stable => rfl
      | again changed => exact absurd same changed
  | again changed _ ih =>
      cases h' with
      | stable same => exact absurd same changed
      | again _ later => exact ih later

/-- Passes over the characters of field names end, with the result of the first. -/
theorem settles_of_isFieldChar (h : ∀ c ∈ text, isFieldChar c = true) :
    Settles text (cleanOnce text) := by
  have once := cleanOnce_of_isFieldChar h
  by_cases stop : text ∈ stopWords
  · rw [if_pos stop] at once
    have changed : cleanOnce text ≠ text := by
      rw [once]
      rintro rfl
      exact absurd stop (by decide)
    refine .again changed ?_
    rw [once]
    exact .stable cleanOnce_nil
  · rw [if_neg stop] at once
    rw [once]
    exact .stable once

/-- The passes over a phrase end in its field name. -/
theorem settles_fieldChars (phrase : List Char) :
    Settles (cleanOnce phrase) (fieldChars phrase) := by
  rw [fieldChars_eq]
  exact settles_of_isFieldChar fun _ => isFieldChar_of_mem_cleanOnce

theorem toList_fieldName (phrase : String) :
    (fieldName phrase).toList = fieldChars phrase.toList := by
  rw [fieldName, String.toList_ofList]

theorem isNormal_fieldName (phrase : String) : IsNormal (fieldName phrase) := by
  constructor
  · intro c mem
    rw [toList_fieldName] at mem
    exact isFieldChar_of_mem_fieldChars mem
  · rw [toList_fieldName]
    exact fieldChars_not_mem_stopWords phrase.toList

/-- What is normal stays as it is. -/
theorem IsNormal.fieldName_eq {name : String} (h : IsNormal name) : fieldName name = name := by
  have once : cleanOnce name.toList = name.toList := by
    rw [cleanOnce_of_isFieldChar h.chars, if_neg h.not_stopWord]
  rw [← String.toList_inj, toList_fieldName, fieldChars_eq, once, once]

/-- **The passes over a phrase settle in its field name**, which two of them give.  It is normal;
the normal texts are those that stay as they are, and no other text is a field name. -/
theorem passes_settle_in_fieldName :
    (∀ phrase result : String,
      Settles (cleanOnce phrase.toList) result.toList ↔ result = fieldName phrase) ∧
    (∀ phrase, (fieldName phrase).toList = cleanOnce (cleanOnce phrase.toList)) ∧
    (∀ phrase, IsNormal (fieldName phrase)) ∧
    (∀ name, fieldName name = name ↔ IsNormal name) ∧
    (∀ phrase, fieldName (fieldName phrase) = fieldName phrase) ∧
    (∀ name, (∃ phrase, fieldName phrase = name) ↔ IsNormal name) := by
  have settles : ∀ phrase : String,
      Settles (cleanOnce phrase.toList) (fieldName phrase).toList := fun phrase => by
    rw [toList_fieldName]
    exact settles_fieldChars phrase.toList
  refine ⟨fun phrase result => ⟨fun h => ?_, fun h => h ▸ settles phrase⟩, fun phrase => ?_,
    isNormal_fieldName, fun name => ⟨fun h => h ▸ isNormal_fieldName name, IsNormal.fieldName_eq⟩,
    fun phrase => (isNormal_fieldName phrase).fieldName_eq, fun name => ⟨?_, fun h => ?_⟩⟩
  · exact String.toList_inj.mp (h.unique (settles phrase))
  · rw [toList_fieldName, fieldChars_eq]
  · rintro ⟨phrase, rfl⟩
    exact isNormal_fieldName phrase
  · exact ⟨name, h.fieldName_eq⟩

/-- The first pass over `t.he` brings a stop word to light, and the second drops it. -/
example : cleanOnce "t.he".toList = "the".toList ∧ fieldName "t.he" = "" := by decide +kernel

end Enquiry.Question
