import Enquiry.Proofs.Pattern.Preference
import Enquiry.Proofs.Question.Classification
import Enquiry.Proofs.Question.FieldWords

/-!
# Questions of words

What phrasings with a `by` make of a spaced text of words.  As blanks stand around it, the `by` that
is read is a word of the text (`mem_partsOf_of_find?`).  So **a shortest run in front of a `by`
takes the text up to the first `by` among the words** (`attempt_untilBy`), with none of the blanks
in front of it, and **a grouping clause is everything behind the first** (`find?_groupClause`), as
a word boundary is not enough: a blank has to follow the `by`.
-/

namespace Enquiry.Question

open Text

variable {text front back gap₁ gap₂ rest w : List Char} {ws : List (List Char)} {pieces : Pattern}
  {slot : Slot} {before : Option Char} {captures : Captures}

/-! ### Phrases of words -/

/-- Words in lower case are their own phrase. -/
theorem phraseOf_of_spaced {question : String} (h : Spaced ws question.toList)
    (words : ∀ w ∈ ws, IsFieldWord w) : phraseOf question = question.toList := by
  have trimmed : trim ([] ++ (question.toList ++ [])) = question.toList :=
    h.trim_eq (fun w mem => (words w mem).isSolid) (by simp) (by simp)
  rw [List.nil_append, List.append_nil] at trimmed
  rw [phraseOf, trimmed, lowercase_eq_of_fieldChars (isBlank_or_isFieldChar h words)]

theorem isDigit_of_ascii {c : Char} (ascii : c.toNat < 0x80) : isDigit c = isAsciiDigit c := by
  have within : covers [(0, 0x7F)] c = true :=
    covers_iff.mpr ⟨_, List.mem_singleton_self _, Nat.zero_le _, Nat.le_of_lt_succ ascii⟩
  have beyond : covers digitRanges c = false :=
    covers_eq_false_of_apart (by decide) within
  rw [isDigit, beyond, Bool.or_false]

/-- There are no digits among letters. -/
theorem isDigit_of_spaced (h : Spaced ws text) (words : ∀ w ∈ ws, IsLetterWord w) :
    ∀ c ∈ text, isDigit c = false := by
  refine h.forall_mem (fun w mem c inside => ?_) fun c => isDigit_of_isBlank
  have word := words w mem
  rw [isDigit_of_ascii (isPlain_of_isFieldChar (word.isFieldWord.chars c inside)).1]
  exact word.isAsciiDigit_eq_false inside

/-! ### Texts on one line -/

theorem holds_inline (line : '\n' ∉ text) : ∀ c ∈ text, CharClass.inline.holds c = true := by
  intro c mem
  refine bne_iff_ne.mpr ?_
  rintro rfl
  exact line mem

/-- What goes up to the end takes a text on one line. -/
theorem attempt_upToEnd (filled : text ≠ []) (line : '\n' ∉ text) (before : Option Char) :
    Pattern.attempt [upToEnd slot] before text = some [(slot, text)] :=
  Pattern.attempt_longest_last filled (holds_inline line) before

/-! ### Phrasings with a `by` -/

/-- The pieces behind what is in front of a `by`. -/
def byThen (pieces : Pattern) : Pattern := gap :: say "by" :: gap :: pieces

theorem isSolid_by : IsSolid "by".toList := isLetterWord_by.isFieldWord.isSolid

theorem exists_of_attempt_gap (h : Pattern.attempt (gap :: pieces) before text = some captures) :
    ∃ first rest, text = first ++ rest ∧ IsGap first ∧
      Pattern.attempt pieces (lastBefore before first) rest = some captures := by
  obtain ⟨first, rest, later, rfl, spelled, found, rfl⟩ := Piece.exists_of_attempt h
  cases spelled with
  | run nonempty holds => exact ⟨first, rest, rfl, ⟨nonempty, holds⟩, found⟩

/-- Where a `by` is read, it stands between blanks. -/
theorem exists_of_attempt_byThen
    (h : Pattern.attempt (byThen pieces) before text = some captures) :
    ∃ first second rest, text = first ++ ("by".toList ++ (second ++ rest)) ∧
      IsGap first ∧ IsGap second := by
  obtain ⟨first, behind, rfl, gap, found⟩ := exists_of_attempt_gap h
  obtain ⟨w, behind, later, rfl, spelled, found, rfl⟩ := Piece.exists_of_attempt found
  cases spelled
  obtain ⟨second, rest, rfl, gap', -⟩ := exists_of_attempt_gap found
  exact ⟨first, second, rest, rfl, gap, gap'⟩

/-- A `by` that is read is a part of the text. -/
theorem mem_partsOf_of_find?
    (h : Pattern.find? (some? slot :: byThen pieces) text = some captures) :
    "by".toList ∈ partsOf text := by
  obtain ⟨front, behind, rfl, found⟩ := Pattern.exists_attempt_of_find? h
  obtain ⟨taken, behind, later, rfl, -, found, -⟩ := Piece.exists_of_attempt found
  obtain ⟨first, second, rest, rfl, gap, gap'⟩ := exists_of_attempt_byThen found
  have part : "by".toList ∈
      partsOf ((front ++ taken ++ first) ++ ("by".toList ++ (second ++ rest))) :=
    mem_partsOf (gap.blank_getLast _) isSolid_by (gap'.blank_head rest)
  simpa only [List.append_assoc] using part

/-- No `by` is read from within words of which none is a `by`. -/
theorem attempt_byThen_eq_none (spaced : Spaced ws text) (words : ∀ w ∈ ws, IsSolid w)
    (without : "by".toList ∉ ws) (blank : ∀ c ∈ rest.head?, isBlank c = true)
    (split : text = front ++ back) (filled : back ≠ []) :
    Pattern.attempt (byThen pieces) before (back ++ rest) = none := by
  rw [Option.eq_none_iff_forall_ne_some]
  intro captures found
  obtain ⟨first, second, more, same, gap, gap'⟩ := exists_of_attempt_byThen found
  -- the blanks in front of the `by` end before the text does
  have within : first.length < back.length := by
    by_contra longer
    obtain ⟨cs, c, last, solid⟩ := spaced.exists_concat words
    have ends : c ∈ back := by
      obtain ⟨ds, d, rfl⟩ := (List.eq_nil_or_concat back).resolve_left filled
      have final : (cs ++ [c]).getLast? = (front ++ ds.concat d).getLast? := by rw [← last, ← split]
      obtain rfl : c = d := by simpa [← List.append_assoc] using final
      simp
    have covered : back <+: first :=
      List.prefix_of_prefix_length_le ⟨rest, rfl⟩ ⟨_, same.symm⟩ (by omega)
    rw [gap.blank c (covered.subset ends)] at solid
    cases solid
  have part : "by".toList ∈ partsOf text :=
    mem_partsOf_of_append_eq (by rw [split, List.append_assoc, same, List.append_assoc])
      (by rw [split]; simpa using within) blank (gap.blank_getLast front) isSolid_by
      (gap'.blank_head more)
  rw [spaced.partsOf_eq words] at part
  exact without part

/-- **What stands in front of the first `by`** is what a shortest run in front of a `by` takes. -/
theorem attempt_untilBy (spaced : Spaced ws text) (words : ∀ w ∈ ws, IsSolid w)
    (without : "by".toList ∉ ws) (line : '\n' ∉ text) (first : IsGap gap₁) (second : IsGap gap₂)
    (solid : ∀ c ∈ rest.head?, isBlank c = false)
    (found : ∀ before, Pattern.attempt pieces before rest = some captures) :
    Pattern.attempt (some? slot :: byThen pieces) before
      (text ++ (gap₁ ++ ("by".toList ++ (gap₂ ++ rest)))) = some ((slot, text) :: captures) := by
  have behind : Pattern.attempt (byThen pieces) (lastBefore before text)
      (gap₁ ++ ("by".toList ++ (gap₂ ++ rest))) = some captures := by
    refine Pattern.attempt_longest first.nonempty first.blank (fun c head => ?_) ?_
    · obtain rfl := Option.some.inj head
      decide
    · rw [say, Pattern.attempt_word]
      exact Pattern.attempt_longest second.nonempty second.blank solid (found _)
  refine Pattern.attempt_shortest (spaced.text_ne_nil words) (holds_inline line)
    (fun front back split _ filled => ?_) behind
  exact attempt_byThen_eq_none spaced words without (first.blank_head _) split filled

/-! ### The grouping clause -/

/-- In a text of words a boundary in front of a word character has a blank or nothing before it. -/
theorem isBlank_of_isBoundary {c : Char} (words : ∀ c ∈ text, isBlank c = true ∨ isWord c = true)
    (letter : isWord c = true) (boundary : isBoundary text.getLast? (some c) = true) :
    ∀ d ∈ text.getLast?, isBlank d = true := by
  intro d last
  refine (words d (List.mem_of_getLast? last)).resolve_right fun word => ?_
  rw [Option.mem_def.mp last] at boundary
  simp [isBoundary, isWordNeighbour, word, letter] at boundary

/-- A grouping clause is read where a `by` begins and a blank follows it. -/
theorem exists_of_attempt_groupClause (h : groupClause.attempt before text = some captures) :
    isBoundary before text.head? = true ∧ ∃ second rest, text = "by".toList ++ (second ++ rest) ∧
      IsGap second := by
  obtain ⟨none, behind, later, rfl, spelled, found, rfl⟩ := Piece.exists_of_attempt h
  cases spelled with
  | edge boundary =>
      obtain ⟨w, behind, later, rfl, spelled, found, rfl⟩ := Piece.exists_of_attempt found
      cases spelled
      obtain ⟨second, rest, rfl, gap, -⟩ := exists_of_attempt_gap found
      exact ⟨boundary, second, rest, rfl, gap⟩

/-- **The grouping clause is what stands behind the first `by`**, to the end of the text. -/
theorem find?_groupClause (spaced : Spaced ws text) (words : ∀ w ∈ ws, IsFieldWord w)
    (without : "by".toList ∉ ws) (first : IsGap gap₁) (second : IsGap gap₂) (nonempty : rest ≠ [])
    (solid : ∀ c ∈ rest.head?, isBlank c = false) (line : '\n' ∉ rest) :
    groupClause.find? (text ++ (gap₁ ++ ("by".toList ++ (gap₂ ++ rest)))) =
      some [(.field, rest)] := by
  have chars : ∀ c ∈ text ++ gap₁, isBlank c = true ∨ isWord c = true := by
    refine List.forall_mem_append.mpr ⟨fun c mem => ?_, fun c mem => .inl (first.blank c mem)⟩
    exact (isBlank_or_isFieldChar spaced words c mem).imp_right isWord_of_isFieldChar
  rw [← List.append_assoc]
  refine Pattern.find?_append (fun front behind split filled => ?_) ?_
  · -- an earlier `by` would be a word of the text
    rw [Option.eq_none_iff_forall_ne_some]
    intro captures found
    obtain ⟨boundary, gap, more, same, between⟩ := exists_of_attempt_groupClause found
    obtain ⟨c, cs, rfl⟩ := List.exists_cons_of_ne_nil filled
    obtain rfl : c = 'b' := (List.cons_eq_cons.mp same).1
    -- the blanks in front of the `by` do not begin with a letter
    have within : front.length < text.length := by
      by_contra reached
      rcases List.append_eq_append_iff.mp split with ⟨left, rfl, right⟩ | ⟨left, rfl, right⟩
      · exact absurd (first.blank 'b' (by simp [right])) (by decide)
      · have none : left = [] := by simpa using reached
        rw [none, List.nil_append] at right
        exact absurd (first.blank 'b' (by simp [← right])) (by decide)
    have whole : text ++ (gap₁ ++ ("by".toList ++ (gap₂ ++ rest))) =
        front ++ ("by".toList ++ (gap ++ more)) := by
      rw [← List.append_assoc, split, List.append_assoc, same]
    have blank := isBlank_of_isBoundary (fun c mem => chars c (by
      rw [split]
      exact List.mem_append_left _ mem)) (by decide) boundary
    have part : "by".toList ∈ partsOf text := mem_partsOf_of_append_eq whole within
      (first.blank_head _) blank isSolid_by (between.blank_head more)
    rw [spaced.partsOf_eq fun w mem => (words w mem).isSolid] at part
    exact without part
  · have start : isBoundary (text ++ gap₁).getLast? (some 'b') = true := by
      obtain ⟨cs, c, rfl⟩ := (List.eq_nil_or_concat gap₁).resolve_left first.nonempty
      have blank := first.blank c (by simp)
      have letter : isWord 'b' = true := by decide
      simp [isBoundary, isWordNeighbour, isWord_of_isBlank blank, letter]
    have field : Pattern.attempt [upToEnd .field, .finish]
        (lastBefore (lastBefore (text ++ gap₁).getLast? "by".toList) gap₂) (rest ++ []) =
        some [(.field, rest)] :=
      Pattern.attempt_longest nonempty (holds_inline line) (by simp) rfl
    rw [List.append_nil] at field
    rw [groupClause, Pattern.attempt, Piece.attempt]
    refine (if_pos start).trans ?_
    rw [say, Pattern.attempt_word]
    exact Pattern.attempt_longest second.nonempty second.blank solid field

end Enquiry.Question
