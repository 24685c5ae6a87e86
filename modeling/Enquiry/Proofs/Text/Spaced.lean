import Enquiry.Proofs.Text.Case
import Enquiry.Text.Blank
import Enquiry.Text.Search
import Enquiry.Text.Word

/-!
# Words between blanks

The parts of a text are what its blanks leave of it (`partsOf`), and **every blank cuts a text in
two** (`partsOf_append_cons`).  A text is spaced (`Spaced`) when it is some words with a run of
blanks between each two, and spread out (`Spread`) when there may be blanks around it too; the words
are its parts (`Spread.partsOf_eq`), and every text has its parts as words (`spread_partsOf`).

What stands between blanks is a part (`mem_partsOf`), also when the text goes on behind a blank
(`mem_partsOf_of_append_eq`), and what has no blanks and stands in a spaced text stands in one of
its words (`Spaced.exists_isInfix`).

Blanks are no word characters and no digits, and lower case keeps them: the tables of the three
have no code point in common with that of the blanks (`blankRanges_apart`).  Nor has the table of
what letters become, so that a text that ends with something visible does so in lower case
(`solid_getLast_lowercase`).
-/

namespace Enquiry.Text

/-! ### Blanks among the characters -/

/-- No range of one table meets one of the other. -/
def apart (ranges others : List (Nat × Nat)) : Bool :=
  ranges.all fun r => others.all fun s => Nat.blt r.2 s.1 || Nat.blt s.2 r.1

theorem covers_eq_false_of_apart {ranges others : List (Nat × Nat)} {c : Char}
    (h : apart ranges others = true) (inside : covers ranges c = true) :
    covers others c = false := by
  obtain ⟨r, mem, low, high⟩ := covers_iff.mp inside
  rw [← Bool.not_eq_true, covers_iff]
  rintro ⟨s, mem', low', high'⟩
  have away := List.all_eq_true.mp (List.all_eq_true.mp h r mem) s mem'
  simp only [Bool.or_eq_true, Nat.blt_eq] at away
  omega

theorem blankRanges_apart :
    apart blankRanges (wordRanges ++ digitRanges ++
      lowercaseRuns.map fun run => (run.first, run.last)) = true := by decide +kernel

section

variable {c : Char}

/-- A blank is in no range of the three tables. -/
theorem not_within_of_isBlank (h : isBlank c = true) {r : Nat × Nat}
    (mem : r ∈ wordRanges ++ digitRanges ++ lowercaseRuns.map fun run => (run.first, run.last)) :
    ¬ (r.1 ≤ c.toNat ∧ c.toNat ≤ r.2) := by
  have out := covers_eq_false_of_apart blankRanges_apart h
  rw [← Bool.not_eq_true, covers_iff] at out
  exact fun within => out ⟨r, mem, within⟩

/-- The blanks of ASCII. -/
theorem toNat_of_isBlank (h : isBlank c = true) (ascii : c.toNat < 0x80) :
    (0x9 ≤ c.toNat ∧ c.toNat ≤ 0xD) ∨ c.toNat = 0x20 := by
  obtain ⟨r, mem, low, high⟩ := covers_iff.mp h
  simp only [blankRanges, List.mem_cons, List.not_mem_nil, or_false] at mem
  rcases mem with rfl | rfl | rfl | rfl | rfl | rfl | rfl | rfl | rfl | rfl <;>
    simp only at low high <;> omega

theorem isWord_of_isBlank (h : isBlank c = true) : isWord c = false := by
  rw [isWord]
  split
  next ascii =>
      have bounds := toNat_of_isBlank h ascii
      simp only [isAsciiWord, isAsciiDigit, Char.le_def, UInt32.le_iff_toNat_le]
      have underscore : c ≠ '_' := by
        rintro rfl
        exact absurd h (by decide)
      simp [underscore]
      omega
  next =>
      rw [← Bool.not_eq_true, covers_iff]
      rintro ⟨r, mem, within⟩
      exact not_within_of_isBlank h (by simp [mem]) within

theorem isDigit_of_isBlank (h : isBlank c = true) : isDigit c = false := by
  have beyond : covers digitRanges c = false := by
    rw [← Bool.not_eq_true, covers_iff]
    rintro ⟨r, mem, within⟩
    exact not_within_of_isBlank h (by simp [mem]) within
  have ascii : isAsciiDigit c = false := by
    rw [← Bool.not_eq_true]
    intro digit
    have bounds : 0x30 ≤ c.toNat ∧ c.toNat ≤ 0x39 := by
      simpa [isAsciiDigit, Char.le_def, UInt32.le_iff_toNat_le] using digit
    have small := toNat_of_isBlank h (by omega)
    omega
  rw [isDigit, ascii, beyond]
  rfl

/-- A blank is its own lowercase form. -/
theorem toLower_of_isBlank (h : isBlank c = true) : c.toLower = c := by
  refine toLower_of_not_isAsciiUpper ?_
  rw [← Bool.not_eq_true, isAsciiUpper_iff]
  intro bounds
  have ascii := toNat_of_isBlank h (by omega)
  omega

/-- No letter of ASCII is a blank, capital or not. -/
theorem isBlank_toLower (c : Char) : isBlank c.toLower = isBlank c := by
  rcases toLower_cases c with same | ⟨capital, small⟩
  · rw [same]
  · have none : ∀ {d : Char}, d.toNat < 0x80 → 0x21 ≤ d.toNat → isBlank d = false := by
      intro d ascii beyond
      rw [← Bool.not_eq_true]
      intro blank
      have bounds := toNat_of_isBlank blank ascii
      omega
    rw [none (by omega) (by omega), none (by omega) (by omega)]

theorem isLowered_of_isBlank (h : isBlank c = true) : IsLowered c := by
  by_cases ascii : c.toNat < 0x80
  · have bounds := toNat_of_isBlank h ascii
    refine isLowered_of_isPlain (isPlain_iff.mpr ?_)
    omega
  · constructor
    · rintro rfl
      exact absurd h (by decide)
    · have notDotted : c ≠ 'İ' := by
        rintro rfl
        exact absurd h (by decide)
      have unpaired : lowercaseRuns.findSome? (·.image? c.toNat) = none := by
        rw [List.findSome?_eq_none_iff]
        intro run mem
        rw [Option.eq_none_iff_forall_not_mem]
        intro m image
        have within := (CaseRun.image?_eq_some_iff.mp image).1
        refine not_within_of_isBlank (r := (run.first, run.last)) h ?_ within
        exact List.mem_append_right _ (List.mem_map.mpr ⟨run, mem, rfl⟩)
      rw [lowercaseChar, if_neg ascii, if_neg notDotted, unpaired]

end

/-! ### Ends of texts in lower case -/

theorem blankRanges_apart_images :
    apart blankRanges (lowercaseRuns.map fun run =>
      (run.image, run.image + (run.last - run.first))) = true := by decide +kernel

/-- No partner of a letter is blank. -/
theorem isBlank_of_image? {n m : Nat} (h : lowercaseRuns.findSome? (·.image? n) = some m) :
    isBlank (Char.ofNat m) = false := by
  obtain ⟨run, mem, image⟩ := List.exists_of_findSome?_eq_some h
  obtain ⟨within, -, place⟩ := CaseRun.image?_eq_some_iff.mp image
  have toNat : (Char.ofNat m).toNat = m := toNat_ofNat (isValidChar_and_lt_of_image? h).1
  rw [← Bool.not_eq_true]
  intro blank
  have out := covers_eq_false_of_apart blankRanges_apart_images blank
  rw [← Bool.not_eq_true, covers_iff] at out
  exact out ⟨_, List.mem_map.mpr ⟨run, mem, rfl⟩, by rw [toNat]; omega, by rw [toNat]; omega⟩

/-- Lower case makes no blanks. -/
theorem isBlank_of_mem_lowercaseHead {afterCased : Bool} {c d : Char} {rest : List Char}
    (h : d ∈ lowercaseHead afterCased c rest) (solid : isBlank c = false) : isBlank d = false := by
  unfold lowercaseHead at h
  split at h
  next =>
      have forms : isBlank 'ς' = false ∧ isBlank 'σ' = false := by decide
      split at h <;> obtain rfl := List.mem_singleton.mp h
      · exact forms.1
      · exact forms.2
  next =>
    by_cases ascii : c.toNat < 0x80
    · rw [lowercaseChar_of_lt ascii, List.mem_singleton] at h
      rw [h, isBlank_toLower, solid]
    · rw [lowercaseChar, if_neg ascii] at h
      split at h
      next =>
          have parts : isBlank 'i' = false ∧ isBlank '\u0307' = false := by decide
          rcases List.mem_cons.mp h with rfl | h
          · exact parts.1
          · rw [List.mem_singleton.mp h, parts.2]
      next =>
        split at h <;> obtain rfl := List.mem_singleton.mp h
        next m found => exact isBlank_of_image? found
        next => exact solid

theorem lowercaseHead_ne_nil (afterCased : Bool) (c : Char) (rest : List Char) :
    lowercaseHead afterCased c rest ≠ [] := by
  unfold lowercaseHead lowercaseChar
  repeat' split
  all_goals exact List.cons_ne_nil _ _

theorem lowercase_concat (text : List Char) (c : Char) :
    ∃ written afterCased, lowercase (text ++ [c]) = written ++ lowercaseHead afterCased c [] := by
  obtain ⟨written, afterCased, e⟩ := exists_lowercaseOnto_append text [c] false
  refine ⟨written, afterCased, ?_⟩
  rw [lowercase, e, lowercaseOnto_cons, lowercaseOnto, List.reverse_nil, List.append_nil]

theorem lowercase_ne_nil {text : List Char} (filled : text ≠ []) : lowercase text ≠ [] := by
  obtain ⟨front, c, rfl⟩ := (List.eq_nil_or_concat text).resolve_left filled
  obtain ⟨written, afterCased, e⟩ := lowercase_concat front c
  rw [List.concat_eq_append, e]
  exact List.append_ne_nil_of_right_ne_nil _ (lowercaseHead_ne_nil afterCased c [])

/-- A text that ends with something visible does so in lower case. -/
theorem solid_getLast_lowercase {text : List Char} (h : ∀ c ∈ text.getLast?, isBlank c = false) :
    ∀ d ∈ (lowercase text).getLast?, isBlank d = false := by
  rcases List.eq_nil_or_concat text with rfl | ⟨front, c, rfl⟩
  · exact fun d last => absurd last (by simp [lowercase, lowercaseOnto])
  · obtain ⟨written, afterCased, e⟩ := lowercase_concat front c
    obtain ⟨ds, d, form⟩ := (List.eq_nil_or_concat _).resolve_left
      (lowercaseHead_ne_nil afterCased c [])
    have mem : d ∈ lowercaseHead afterCased c [] := by simp [form]
    rw [List.concat_eq_append, e, form]
    simpa [← List.append_assoc] using isBlank_of_mem_lowercaseHead mem (h c (by simp))

/-! ### The parts of a text -/

/-- A run of blanks. -/
structure IsGap (gap : List Char) : Prop where
  nonempty : gap ≠ []
  blank : ∀ c ∈ gap, isBlank c = true

/-- A text without blanks that is not empty. -/
structure IsSolid (w : List Char) : Prop where
  nonempty : w ≠ []
  solid : ∀ c ∈ w, isBlank c = false

variable {c : Char} {text front rest behind gap w : List Char} {ws ws' : List (List Char)}

theorem isGap_singleton (h : isBlank c = true) : IsGap [c] :=
  ⟨List.cons_ne_nil c [], by simpa using h⟩

theorem IsGap.blank_getLast (h : IsGap gap) (front : List Char) :
    ∀ c ∈ (front ++ gap).getLast?, isBlank c = true := by
  intro c last
  obtain ⟨cs, d, rfl⟩ := (List.eq_nil_or_concat gap).resolve_left h.nonempty
  obtain rfl : d = c := by simpa [← List.append_assoc] using last
  exact h.blank d (by simp)

theorem IsGap.blank_head (h : IsGap gap) (rest : List Char) :
    ∀ c ∈ (gap ++ rest).head?, isBlank c = true := by
  intro c first
  obtain ⟨d, ds, rfl⟩ := List.exists_cons_of_ne_nil h.nonempty
  obtain rfl := Option.some.inj first
  exact h.blank d List.mem_cons_self

/-- What the blanks leave of a text. -/
def partsOf (text : List Char) : List (List Char) :=
  (text.splitOnP isBlank).filter fun part => !part.isEmpty

theorem partsOf_nil : partsOf [] = [] := rfl

/-- **Every blank cuts a text in two.** -/
theorem partsOf_append_cons (blank : isBlank c = true) (front rest : List Char) :
    partsOf (front ++ c :: rest) = partsOf front ++ partsOf rest := by
  rw [partsOf, List.splitOnP_append_cons front rest blank, List.filter_append]
  rfl

theorem partsOf_blanks_append (blanks : ∀ c ∈ front, isBlank c = true) (rest : List Char) :
    partsOf (front ++ rest) = partsOf rest := by
  induction front with
  | nil => rfl
  | cons c front ih =>
      obtain ⟨here, later⟩ := List.forall_mem_cons.mp blanks
      have cut := partsOf_append_cons here [] (front ++ rest)
      rw [List.nil_append, partsOf_nil, List.nil_append] at cut
      rw [List.cons_append, cut, ih later]

/-- So does a run of blanks. -/
theorem IsGap.partsOf_eq (h : IsGap gap) (front rest : List Char) :
    partsOf (front ++ (gap ++ rest)) = partsOf front ++ partsOf rest := by
  obtain ⟨c, cs, rfl⟩ := List.exists_cons_of_ne_nil h.nonempty
  obtain ⟨here, further⟩ := List.forall_mem_cons.mp h.blank
  rw [List.cons_append, partsOf_append_cons here, partsOf_blanks_append further]

theorem partsOf_append_blanks (blanks : ∀ c ∈ behind, isBlank c = true) (text : List Char) :
    partsOf (text ++ behind) = partsOf text := by
  cases behind with
  | nil => rw [List.append_nil]
  | cons c cs =>
      have parted := IsGap.partsOf_eq ⟨List.cons_ne_nil c cs, blanks⟩ text []
      rwa [List.append_nil, partsOf_nil, List.append_nil] at parted

theorem IsSolid.partsOf_eq (h : IsSolid w) : partsOf w = [w] := by
  rw [partsOf, List.splitOnP_eq_singleton h.solid,
    List.filter_cons_of_pos (by simpa using h.nonempty)]
  rfl

/-- What stands between blanks is a part. -/
theorem mem_partsOf (before : ∀ c ∈ front.getLast?, isBlank c = true) (word : IsSolid w)
    (after : ∀ c ∈ behind.head?, isBlank c = true) : w ∈ partsOf (front ++ (w ++ behind)) := by
  have first : w ∈ partsOf (w ++ behind) := by
    cases behind with
    | nil => simp [word.partsOf_eq]
    | cons c cs => simp [partsOf_append_cons (after c rfl), word.partsOf_eq]
  rcases List.eq_nil_or_concat front with rfl | ⟨cs, c, rfl⟩
  · exact first
  · rw [List.concat_eq_append, List.append_assoc, List.singleton_append,
      partsOf_append_cons (before c (by simp))]
    exact List.mem_append_right _ first

/-- What stands between blanks and begins within `text` is a part of it, when `text` goes on
behind a blank only. -/
theorem mem_partsOf_of_append_eq (same : text ++ rest = front ++ (w ++ behind))
    (within : front.length < text.length) (apart : ∀ c ∈ rest.head?, isBlank c = true)
    (before : ∀ c ∈ front.getLast?, isBlank c = true) (word : IsSolid w)
    (after : ∀ c ∈ behind.head?, isBlank c = true) : w ∈ partsOf text := by
  rcases List.append_eq_append_iff.mp same with ⟨longer, rfl, -⟩ | ⟨tail, rfl, parted⟩
  · rw [List.length_append] at within
    omega
  · rcases List.append_eq_append_iff.mp parted with ⟨left, rfl, right⟩ | ⟨beyond, rfl, right⟩
    · refine mem_partsOf before word fun c first => after c ?_
      rw [right, List.head?_append, Option.mem_def.mp first]
      rfl
    · -- the word reaches into what follows, which is blank there
      cases beyond with
      | nil =>
          rw [List.append_nil] at word
          have whole : tail ∈ partsOf (front ++ (tail ++ [])) := mem_partsOf before word (by simp)
          simpa using whole
      | cons c cs =>
          have blank := apart c (by simp [right])
          have none := word.solid c (by simp)
          rw [blank] at none
          cases none

/-! ### Words joined by a mark -/

theorem intercalate_append (mark : List Char) (some : ws ≠ []) (some' : ws' ≠ []) :
    mark.intercalate (ws ++ ws') = mark.intercalate ws ++ (mark ++ mark.intercalate ws') := by
  induction ws with
  | nil => exact absurd rfl some
  | cons w ws ih =>
      cases ws with
      | nil => simp [List.intercalate_cons_of_ne_nil some']
      | cons v vs =>
          rw [List.cons_append, List.cons_append, List.intercalate_cons_cons,
            List.intercalate_cons_cons, ← List.cons_append, ih (List.cons_ne_nil v vs)]
          simp only [List.append_assoc]

theorem mem_intercalate {mark : List Char} (h : c ∈ mark.intercalate ws) :
    c ∈ mark ∨ ∃ w ∈ ws, c ∈ w := by
  induction ws with
  | nil => cases h
  | cons w ws ih =>
      cases ws with
      | nil => exact .inr ⟨w, List.mem_cons_self, by simpa using h⟩
      | cons v vs =>
          rw [List.intercalate_cons_cons, List.append_assoc, List.mem_append, List.mem_append] at h
          rcases h with here | between | later
          · exact .inr ⟨w, List.mem_cons_self, here⟩
          · exact .inl between
          · rcases ih later with between | ⟨u, mem, inside⟩
            · exact .inl between
            · exact .inr ⟨u, List.mem_cons_of_mem _ mem, inside⟩

theorem mem_intercalate_of_mem {mark : List Char} (mem : w ∈ ws) (inside : c ∈ w) :
    c ∈ mark.intercalate ws := by
  induction ws with
  | nil => cases mem
  | cons v ws ih =>
      cases ws with
      | nil =>
          obtain rfl := List.mem_singleton.mp mem
          simpa using inside
      | cons u us =>
          rw [List.intercalate_cons_cons]
          rcases List.mem_cons.mp mem with rfl | mem
          · exact List.mem_append_left _ (List.mem_append_left _ inside)
          · exact List.mem_append_right _ (ih mem)

/-- Some of the parts that follow one another stand together in the whole. -/
theorem intercalate_isInfix (mark : List Char) (some : ws ≠ []) (before after : List (List Char)) :
    mark.intercalate ws <:+: mark.intercalate (before ++ (ws ++ after)) := by
  have first : mark.intercalate ws <+: mark.intercalate (ws ++ after) := by
    by_cases none : after = []
    · simp [none]
    · rw [intercalate_append mark some none]
      exact List.prefix_append _ _
  by_cases none : before = []
  · rw [none]
    exact first.isInfix
  · rw [intercalate_append mark none (by simp [some])]
    exact first.isInfix.trans ((List.suffix_append _ _).trans (List.suffix_append _ _)).isInfix

/-! ### Spaced texts -/

/-- The words of a text, which has a run of blanks between each two. -/
inductive Spaced : List (List Char) → List Char → Prop
  | last (w : List Char) : Spaced [w] w
  | more {w gap text : List Char} {ws : List (List Char)} (between : IsGap gap)
      (later : Spaced ws text) : Spaced (w :: ws) (w ++ (gap ++ text))

namespace Spaced

/-- Words with one blank between each two. -/
theorem intercalate (blank : isBlank c = true) (some : ws ≠ []) :
    Spaced ws ([c].intercalate ws) := by
  induction ws with
  | nil => exact absurd rfl some
  | cons w ws ih =>
      cases ws with
      | nil => simpa using Spaced.last w
      | cons v vs =>
          rw [List.intercalate_cons_cons, List.append_assoc]
          exact .more (isGap_singleton blank) (ih (List.cons_ne_nil v vs))

theorem ne_nil (h : Spaced ws text) : ws ≠ [] := by cases h <;> exact List.cons_ne_nil _ _

theorem mem_of_mem (h : Spaced ws text) (mem : w ∈ ws) (inside : c ∈ w) : c ∈ text := by
  induction h with
  | last => rwa [List.mem_singleton.mp mem] at inside
  | more between later ih =>
      rcases List.mem_cons.mp mem with rfl | mem
      · exact List.mem_append_left _ inside
      · exact List.mem_append_right _ (List.mem_append_right _ (ih mem))

/-- The words are the parts of the text. -/
theorem partsOf_eq (h : Spaced ws text) (words : ∀ w ∈ ws, IsSolid w) : partsOf text = ws := by
  induction h with
  | last w => exact (words w (List.mem_singleton_self w)).partsOf_eq
  | @more w gap text ws between later ih =>
      obtain ⟨word, others⟩ := List.forall_mem_cons.mp words
      rw [between.partsOf_eq, word.partsOf_eq, ih others]
      rfl

/-- Whatever holds of the characters of the words and of blanks, holds of all characters. -/
theorem forall_mem {p : Char → Prop} (h : Spaced ws text) (words : ∀ w ∈ ws, ∀ c ∈ w, p c)
    (blanks : ∀ c, isBlank c = true → p c) : ∀ c ∈ text, p c := by
  induction h with
  | last w => exact words w (List.mem_singleton_self w)
  | more between later ih =>
      obtain ⟨here, others⟩ := List.forall_mem_cons.mp words
      intro c mem
      rcases List.mem_append.mp mem with inside | mem
      · exact here c inside
      · rcases List.mem_append.mp mem with gap | mem
        · exact blanks c (between.blank c gap)
        · exact ih others c mem

/-- The text begins with a character of its first word. -/
theorem exists_cons (h : Spaced ws text) (words : ∀ w ∈ ws, IsSolid w) :
    ∃ c cs, text = c :: cs ∧ isBlank c = false := by
  cases h with
  | last =>
      have word := words text (List.mem_singleton_self text)
      obtain ⟨c, cs, rfl⟩ := List.exists_cons_of_ne_nil word.nonempty
      exact ⟨c, cs, rfl, word.solid c List.mem_cons_self⟩
  | @more w gap text ws _ _ =>
      have word := words w List.mem_cons_self
      obtain ⟨c, cs, rfl⟩ := List.exists_cons_of_ne_nil word.nonempty
      exact ⟨c, cs ++ (gap ++ text), rfl, word.solid c List.mem_cons_self⟩

theorem text_ne_nil (h : Spaced ws text) (words : ∀ w ∈ ws, IsSolid w) : text ≠ [] := by
  obtain ⟨c, cs, rfl, -⟩ := h.exists_cons words
  exact List.cons_ne_nil c cs

theorem solid_head (h : Spaced ws text) (words : ∀ w ∈ ws, IsSolid w) (rest : List Char) :
    ∀ c ∈ (text ++ rest).head?, isBlank c = false := by
  obtain ⟨c, cs, rfl, solid⟩ := h.exists_cons words
  intro d first
  obtain rfl := Option.some.inj first
  exact solid

theorem solid_first (h : Spaced ws text) (words : ∀ w ∈ ws, IsSolid w) :
    ∀ c ∈ text.head?, isBlank c = false := by
  have first := h.solid_head words []
  rwa [List.append_nil] at first

/-- The text ends with a character of its last word. -/
theorem exists_concat (h : Spaced ws text) (words : ∀ w ∈ ws, IsSolid w) :
    ∃ cs c, text = cs ++ [c] ∧ isBlank c = false := by
  induction h with
  | last w =>
      have word := words w (List.mem_singleton_self w)
      rcases List.eq_nil_or_concat w with rfl | ⟨cs, c, rfl⟩
      · exact absurd rfl word.nonempty
      · rw [List.concat_eq_append] at word ⊢
        exact ⟨cs, c, rfl, word.solid c (by simp)⟩
  | @more w gap text ws _ _ ih =>
      obtain ⟨cs, c, rfl, last⟩ := ih (List.forall_mem_cons.mp words).2
      exact ⟨w ++ (gap ++ cs), c, by simp, last⟩

/-- Blanks around the text are trimmed, and nothing else. -/
theorem trim_eq (h : Spaced ws text) (words : ∀ w ∈ ws, IsSolid w)
    (before : ∀ c ∈ front, isBlank c = true) (after : ∀ c ∈ behind, isBlank c = true) :
    trim (front ++ (text ++ behind)) = text := by
  obtain ⟨c, cs, first, start⟩ := h.exists_cons words
  obtain ⟨ds, d, last, stop⟩ := h.exists_concat words
  have opened : (front ++ (text ++ behind)).dropWhile isBlank = text ++ behind := by
    rw [List.dropWhile_append_of_pos before, first, List.cons_append,
      List.dropWhile_cons_of_neg (by simp [start])]
  have closed : (text ++ behind).reverse.dropWhile isBlank = text.reverse := by
    rw [List.reverse_append,
      List.dropWhile_append_of_pos fun c mem => after c (List.mem_reverse.mp mem), last,
      List.reverse_append, List.reverse_singleton, List.singleton_append,
      List.dropWhile_cons_of_neg (by simp [stop])]
  rw [trim, trimWith, opened, trimEndWith, closed, List.reverse_reverse]

/-- The words can be parted where one likes. -/
theorem exists_of_append (h : Spaced (ws ++ ws') text) (some : ws ≠ []) (some' : ws' ≠ []) :
    ∃ front gap behind, text = front ++ (gap ++ behind) ∧ IsGap gap ∧ Spaced ws front ∧
      Spaced ws' behind := by
  induction ws generalizing text with
  | nil => exact absurd rfl some
  | cons w ws ih =>
      rw [List.cons_append] at h
      generalize all : ws ++ ws' = others at h
      cases h with
      | last => simp [some'] at all
      | more between later =>
          subst all
          cases ws with
          | nil => exact ⟨w, _, _, rfl, between, .last w, later⟩
          | cons v ws =>
              obtain ⟨front, gap, behind, rfl, between', first, second⟩ :=
                ih later (List.cons_ne_nil v ws)
              exact ⟨_, gap, behind, by simp, between', .more between first, second⟩

/-- The first word and what follows it. -/
theorem exists_of_cons (h : Spaced (w :: ws) text) (some : ws ≠ []) :
    ∃ gap behind, text = w ++ (gap ++ behind) ∧ IsGap gap ∧ Spaced ws behind := by
  cases h with
  | last => exact absurd rfl some
  | more between later => exact ⟨_, _, rfl, between, later⟩

/-- Blanks stay blanks when characters are replaced one by one. -/
theorem map {f : Char → Char} (blank : ∀ c, isBlank c = true → isBlank (f c) = true)
    (h : Spaced ws text) : Spaced (ws.map (List.map f)) (text.map f) := by
  induction h with
  | last w => exact .last (w.map f)
  | @more w gap text ws between later ih =>
      have kept : IsGap (gap.map f) :=
        ⟨by simpa using between.nonempty,
          List.forall_mem_map.mpr fun c mem => blank c (between.blank c mem)⟩
      rw [List.map_append, List.map_append]
      exact .more kept ih

end Spaced

/-! ### Texts with blanks around them -/

/-- The words of a text with blanks between each two, and perhaps around them. A text of no words is
blank. -/
inductive Spread : List (List Char) → List Char → Prop
  | blank {text : List Char} (blanks : ∀ c ∈ text, isBlank c = true) : Spread [] text
  | words {ws : List (List Char)} {front core behind : List Char}
      (before : ∀ c ∈ front, isBlank c = true) (spaced : Spaced ws core)
      (after : ∀ c ∈ behind, isBlank c = true) : Spread ws (front ++ (core ++ behind))

namespace Spread

/-- The words are the parts of the text. -/
theorem partsOf_eq (h : Spread ws text) (words : ∀ w ∈ ws, IsSolid w) : partsOf text = ws := by
  cases h with
  | blank blanks => exact partsOf_append_blanks blanks []
  | words before spaced after =>
      rw [partsOf_blanks_append before, partsOf_append_blanks after, spaced.partsOf_eq words]

theorem forall_mem {p : Char → Prop} (h : Spread ws text) (words : ∀ w ∈ ws, ∀ c ∈ w, p c)
    (blanks : ∀ c, isBlank c = true → p c) : ∀ c ∈ text, p c := by
  cases h with
  | blank all => exact fun c mem => blanks c (all c mem)
  | words before spaced after =>
      intro c mem
      rcases List.mem_append.mp mem with front | mem
      · exact blanks c (before c front)
      · rcases List.mem_append.mp mem with inside | behind
        · exact spaced.forall_mem words blanks c inside
        · exact blanks c (after c behind)

theorem map {f : Char → Char} (blank : ∀ c, isBlank c = true → isBlank (f c) = true)
    (h : Spread ws text) : Spread (ws.map (List.map f)) (text.map f) := by
  have kept : ∀ {cs : List Char}, (∀ c ∈ cs, isBlank c = true) →
      ∀ c ∈ cs.map f, isBlank c = true := fun all =>
    List.forall_mem_map.mpr fun c mem => blank c (all c mem)
  cases h with
  | blank blanks => exact .blank (kept blanks)
  | words before spaced after =>
      rw [List.map_append, List.map_append]
      exact .words (kept before) (spaced.map blank) (kept after)

theorem mem_of_mem (h : Spread ws text) (mem : w ∈ ws) (inside : c ∈ w) : c ∈ text := by
  cases h with
  | blank => cases mem
  | words before spaced after =>
      exact List.mem_append_right _ (List.mem_append_left _ (spaced.mem_of_mem mem inside))

theorem cons_blank (h : Spread ws text) (blank : isBlank c = true) : Spread ws (c :: text) := by
  cases h with
  | blank blanks => exact .blank (List.forall_mem_cons.mpr ⟨blank, blanks⟩)
  | words before spaced after =>
      exact .words (List.forall_mem_cons.mpr ⟨blank, before⟩) spaced after

/-- A character in front is a word of its own, or the first word is longer by it. -/
theorem exists_cons_solid (h : Spread ws text) (words : ∀ w ∈ ws, IsSolid w)
    (solid : isBlank c = false) : ∃ ws', Spread ws' (c :: text) ∧ ∀ w ∈ ws', IsSolid w := by
  have single : IsSolid [c] := ⟨List.cons_ne_nil c [], by simpa using solid⟩
  have longer : ∀ {w : List Char}, IsSolid w → IsSolid (c :: w) := fun word =>
    ⟨List.cons_ne_nil _ _, List.forall_mem_cons.mpr ⟨solid, word.solid⟩⟩
  have around : ∀ d ∈ ([] : List Char), isBlank d = true := by simp
  cases h with
  | blank blanks => exact ⟨[[c]], .words around (.last [c]) blanks, by simpa using single⟩
  | @words ws front core behind before spaced after =>
      cases front with
      | cons d front =>
          have further : Spaced ([c] :: ws) ([c] ++ (d :: front ++ core)) :=
            .more ⟨List.cons_ne_nil d front, before⟩ spaced
          refine ⟨[c] :: ws, ?_, List.forall_mem_cons.mpr ⟨single, words⟩⟩
          simpa using Spread.words around further after
      | nil =>
          cases spaced with
          | last =>
              have word := words core (List.mem_singleton_self core)
              exact ⟨[c :: core], .words around (.last (c :: core)) after,
                by simpa using longer word⟩
          | @more w gap text ws between later =>
              obtain ⟨word, others⟩ := List.forall_mem_cons.mp words
              have first : Spaced ((c :: w) :: ws) (c :: w ++ (gap ++ text)) := .more between later
              exact ⟨(c :: w) :: ws, .words around first after,
                List.forall_mem_cons.mpr ⟨longer word, others⟩⟩

end Spread

/-- Every text is blank, or spaced with blanks around it. -/
theorem exists_spread (text : List Char) : ∃ ws, Spread ws text ∧ ∀ w ∈ ws, IsSolid w := by
  induction text with
  | nil => exact ⟨[], .blank (by simp), by simp⟩
  | cons c cs ih =>
      obtain ⟨ws, spread, words⟩ := ih
      cases kind : isBlank c with
      | true => exact ⟨ws, spread.cons_blank kind, words⟩
      | false => exact spread.exists_cons_solid words kind

/-- **Every text has its parts as words.** -/
theorem spread_partsOf (text : List Char) : Spread (partsOf text) text := by
  obtain ⟨ws, spread, words⟩ := exists_spread text
  rwa [spread.partsOf_eq words]

theorem isSolid_of_mem_partsOf (h : w ∈ partsOf text) : IsSolid w := by
  obtain ⟨ws, spread, words⟩ := exists_spread text
  rw [spread.partsOf_eq words] at h
  exact words w h

theorem mem_of_mem_partsOf (h : w ∈ partsOf text) (inside : c ∈ w) : c ∈ text :=
  (spread_partsOf text).mem_of_mem h inside

/-! ### Parts of texts without blanks -/

/-- What a character cuts in two does not hold a text across the cut that is without it. -/
theorem isInfix_or_isInfix_of_not_mem (without : c ∉ w) (h : w <:+: front ++ c :: rest) :
    w <:+: front ∨ w <:+: rest := by
  obtain ⟨before, after, same⟩ := h
  rcases List.append_eq_append_iff.mp same with ⟨beyond, rfl, -⟩ | ⟨beyond, reach, right⟩
  · exact .inl ⟨before, beyond, rfl⟩
  · cases beyond with
    | nil =>
        rw [List.append_nil] at reach
        exact .inl ⟨before, [], by rw [List.append_nil, reach]⟩
    | cons d ds =>
        obtain ⟨rfl, rfl⟩ := List.cons_eq_cons.mp right
        rcases List.append_eq_append_iff.mp reach with ⟨left, rfl, split⟩ | ⟨left, rfl, split⟩
        · exact absurd (by simp [split]) without
        · cases left with
          | nil =>
              have first : w = c :: ds := split.symm
              exact absurd (by simp [first]) without
          | cons e es =>
              obtain ⟨rfl, rfl⟩ := List.cons_eq_cons.mp split
              exact .inr ⟨es, after, rfl⟩

theorem IsSolid.isInfix_of_isGap (h : IsSolid w) (between : IsGap gap)
    (occurs : w <:+: front ++ (gap ++ rest)) : w <:+: front ∨ w <:+: rest := by
  obtain ⟨nonempty, blank⟩ := between
  induction gap generalizing front with
  | nil => exact absurd rfl nonempty
  | cons c cs ih =>
      obtain ⟨here, later⟩ := List.forall_mem_cons.mp blank
      have without : c ∉ w := fun mem => by
        have solid := h.solid c mem
        rw [here] at solid
        cases solid
      rcases isInfix_or_isInfix_of_not_mem without occurs with inside | behind
      · exact .inl inside
      · cases cs with
        | nil => exact .inr behind
        | cons d ds =>
            have onward : w <:+: [] ++ (d :: ds ++ rest) := behind
            rcases ih onward (List.cons_ne_nil d ds) later with none | inside
            · exact absurd (List.eq_nil_of_infix_nil none) h.nonempty
            · exact .inr inside

/-- **What has no blanks and stands in a spaced text stands in one of its words.** -/
theorem Spaced.exists_isInfix (h : Spaced ws text) (solid : IsSolid w) (occurs : w <:+: text) :
    ∃ v ∈ ws, w <:+: v := by
  induction h with
  | last v => exact ⟨v, List.mem_singleton_self v, occurs⟩
  | @more v gap text ws between later ih =>
      rcases solid.isInfix_of_isGap between occurs with here | behind
      · exact ⟨v, List.mem_cons_self, here⟩
      · obtain ⟨u, mem, inside⟩ := ih behind
        exact ⟨u, List.mem_cons_of_mem v mem, inside⟩

end Enquiry.Text
