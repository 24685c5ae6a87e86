import Enquiry.Proofs.Question.Wording
import Enquiry.Proofs.Text.Splitting

/-!
# Contexts of filters

A filter names its context between `from` and `where` (`ContextClause`).  The clause that is read is
the first one behind something on its line (`FirstClause.find?_eq`).

The blanks behind `from` are taken first and as many as there are, so a context begins with
something visible wherever that is possible (`ContextClause.exists_attempt_eq`).  Where it is not,
blanks are given back to the context until one of them is one, and it is trimmed to nothing.  So
**a filter without a context comes from a first clause that leaves blanks only for it**: three
blanks or more between `from` and `where`, and every such phrase is a filter unless an earlier
category occurs (`filtering_context_eq_empty_iff`).
-/

namespace Enquiry.Question

open Text

/-! ### Context clauses -/

/-- The text begins with blanks, `from`, the context, `where` and a condition. The context and the
condition are on one line each. -/
inductive ContextClause (context : List Char) : List Char → Prop
  | intro {gap₁ gap₂ gap₃ gap₄ condition rest : List Char} (first : IsGap gap₁)
      (second : IsGap gap₂) (named : context ≠ []) (line : '\n' ∉ context) (third : IsGap gap₃)
      (fourth : IsGap gap₄) (asked : condition ≠ []) (line' : '\n' ∉ condition) :
      ContextClause context (gap₁ ++ ("from".toList ++ (gap₂ ++ (context ++
        (gap₃ ++ ("where".toList ++ (gap₄ ++ (condition ++ rest))))))))

/-- A clause can be read behind some text, the last line of which is not empty. -/
structure ReadsClause (front behind : List Char) : Prop where
  filled : ∃ c ∈ front.getLast?, c ≠ '\n'
  clause : ∃ context, ContextClause context behind

/-- No clause can be read before this one. -/
structure FirstClause (phrase front behind : List Char) : Prop where
  split : phrase = front ++ behind
  reads : ReadsClause front behind
  first : ∀ before back, front = before ++ back → back ≠ [] → ¬ ReadsClause before (back ++ behind)

/-- The first clause of a phrase can be read with blanks for a context, and with nothing else. -/
def HasBlankContext (phrase : List Char) : Prop :=
  ∃ front behind, FirstClause phrase front behind ∧
    ∀ context, ContextClause context behind → ∀ c ∈ context, isBlank c = true

variable {phrase front behind front' behind' text rest context : List Char} {pieces : Pattern}
  {slot : Slot} {extent : Extent} {before : Option Char} {captures : Captures} {w : String}

/-- There is one first clause. -/
theorem FirstClause.unique (h : FirstClause phrase front behind)
    (h' : FirstClause phrase front' behind') : front = front' ∧ behind = behind' := by
  have same : front ++ behind = front' ++ behind' := by rw [← h.split, h'.split]
  rcases List.append_eq_append_iff.mp same with ⟨back, rfl, rfl⟩ | ⟨back, rfl, rfl⟩
  · by_cases none : back = []
    · simp [none]
    · exact absurd h.reads (h'.first front back rfl none)
  · by_cases none : back = []
    · simp [none]
    · exact absurd h'.reads (h.first front' back rfl none)

/-- What can be read somewhere can be read somewhere first. -/
theorem exists_first {α : Type _} {p : List α → List α → Prop} {front behind : List α}
    (h : p front behind) : ∃ before back, front = before ++ back ∧ p before (back ++ behind) ∧
      ∀ front' back', before = front' ++ back' → back' ≠ [] →
        ¬ p front' (back' ++ (back ++ behind)) := by
  induction front generalizing p with
  | nil => exact ⟨[], [], rfl, h, fun front' back' none some => absurd none.symm (by simp [some])⟩
  | cons c cs ih =>
      by_cases here : p [] (c :: cs ++ behind)
      · exact ⟨[], c :: cs, rfl, here,
          fun front' back' none some => absurd none.symm (by simp [some])⟩
      · obtain ⟨before, back, rfl, read, fails⟩ := ih (p := fun front => p (c :: front)) h
        refine ⟨c :: before, back, rfl, read, fun front' back' split some earlier => ?_⟩
        cases front' with
        | nil =>
            obtain rfl : c :: before = back' := split
            exact here (by simpa using earlier)
        | cons d front' =>
            obtain ⟨rfl, rfl⟩ := List.cons_eq_cons.mp split
            exact fails front' back' rfl some earlier

/-! ### Reading a clause -/

/-- The pieces of a context clause. -/
def contextClause : Pattern :=
  [gap, say "from", gap, some? .context, gap, say "where", gap, upToEnd .condition]

theorem exists_of_attempt_say (h : Pattern.attempt (say w :: pieces) before text = some captures) :
    ∃ rest, text = w.toList ++ rest ∧
      Pattern.attempt pieces (lastBefore before w.toList) rest = some captures := by
  obtain ⟨first, rest, later, rfl, spelled, found, rfl⟩ := Piece.exists_of_attempt h
  cases spelled
  exact ⟨rest, rfl, found⟩

theorem exists_of_attempt_line
    (h : Pattern.attempt (.run .inline extent (some slot) :: pieces) before text = some captures) :
    ∃ taken rest later, text = taken ++ rest ∧ taken ≠ [] ∧ '\n' ∉ taken ∧
      Pattern.attempt pieces (lastBefore before taken) rest = some later ∧
      captures = (slot, taken) :: later := by
  obtain ⟨taken, rest, later, rfl, spelled, found, rfl⟩ := Piece.exists_of_attempt h
  cases spelled with
  | run nonempty holds =>
      have line : '\n' ∉ taken := fun mem => absurd (holds _ mem) (by decide)
      exact ⟨taken, rest, later, rfl, nonempty, line, found, rfl⟩

/-- What is read of a clause: its context, and a condition behind `where`. -/
theorem exists_of_attempt_contextClause (h : contextClause.attempt before text = some captures) :
    ∃ gap₁ gap₂ context gap₃ behind before' later,
      text = gap₁ ++ ("from".toList ++ (gap₂ ++ (context ++
        (gap₃ ++ ("where".toList ++ behind))))) ∧
      IsGap gap₁ ∧ IsGap gap₂ ∧ context ≠ [] ∧ '\n' ∉ context ∧ IsGap gap₃ ∧
      Pattern.attempt [gap, upToEnd .condition] before' behind = some later ∧
      captures = (.context, context) :: later := by
  obtain ⟨gap₁, _, rfl, first, found⟩ := exists_of_attempt_gap h
  obtain ⟨_, rfl, found⟩ := exists_of_attempt_say found
  obtain ⟨gap₂, _, rfl, second, found⟩ := exists_of_attempt_gap found
  obtain ⟨context, _, later, rfl, named, line, behind, rfl⟩ := exists_of_attempt_line found
  obtain ⟨gap₃, _, rfl, third, found⟩ := exists_of_attempt_gap behind
  obtain ⟨_, rfl, found⟩ := exists_of_attempt_say found
  exact ⟨gap₁, gap₂, context, gap₃, _, _, later, rfl, first, second, named, line, third, found, rfl⟩

/-- A clause that is read is one, with the context that is captured. -/
theorem contextClause_of_attempt (h : contextClause.attempt before text = some captures) :
    ∃ context, captures.get? .context = some context ∧ ContextClause context text := by
  obtain ⟨gap₁, gap₂, context, gap₃, _, _, later, rfl, first, second, named, line, third, found,
    rfl⟩ := exists_of_attempt_contextClause h
  obtain ⟨gap₄, _, rfl, fourth, found⟩ := exists_of_attempt_gap found
  obtain ⟨condition, _, _, rfl, asked, line', -, rfl⟩ := exists_of_attempt_line found
  refine ⟨context, ?_, .intro first second named line third fourth asked line'⟩
  rw [get?_cons, if_pos rfl]

/-- What follows the blanks behind `from` in a clause can be read. -/
theorem attempt_context_isSome {gap₃ gap₄ condition : List Char} (named : context ≠ [])
    (line : '\n' ∉ context) (third : IsGap gap₃) (fourth : IsGap gap₄) (asked : condition ≠ [])
    (line' : '\n' ∉ condition) (before : Option Char) (rest : List Char) :
    (Pattern.attempt [some? .context, gap, say "where", gap, upToEnd .condition] before
      (context ++ (gap₃ ++ ("where".toList ++ (gap₄ ++ (condition ++ rest)))))).isSome := by
  refine Piece.attempt_isSome (.run named (holds_inline line)) ?_
  refine Piece.attempt_isSome (.run third.nonempty third.blank) ?_
  refine Piece.attempt_isSome (.word _) ?_
  refine Piece.attempt_isSome (.run fourth.nonempty fourth.blank) ?_
  exact Piece.attempt_isSome (.run asked (holds_inline line')) rfl

/-- A clause can be read. -/
theorem ContextClause.attempt_isSome (h : ContextClause context text) (before : Option Char) :
    (contextClause.attempt before text).isSome := by
  obtain ⟨first, second, named, line, third, fourth, asked, line'⟩ := h
  refine Piece.attempt_isSome (.run first.nonempty first.blank) ?_
  refine Piece.attempt_isSome (.word _) ?_
  refine Piece.attempt_isSome (.run second.nonempty second.blank) ?_
  exact attempt_context_isSome named line third fourth asked line' _ _

/-- What is not blank begins with something visible behind its blanks. -/
theorem exists_visible (h : ∃ c ∈ text, isBlank c = false) :
    ∃ blanks c visible, text = blanks ++ c :: visible ∧ (∀ d ∈ blanks, isBlank d = true) ∧
      isBlank c = false := by
  obtain ⟨c, found⟩ := Option.isSome_iff_exists.mp
    (List.find?_isSome (p := fun c => !isBlank c) |>.mpr (by simpa using h))
  obtain ⟨solid, blanks, visible, rfl, blank⟩ := List.find?_eq_some_iff_append.mp found
  exact ⟨blanks, c, visible, rfl, by simpa using blank, by simpa using solid⟩

/-- Blanks in front of a line are taken as a whole, so that the line begins with something
visible. -/
theorem exists_attempt_gap_line {blanks shown : List Char} {c : Char} (between : IsGap blanks)
    (solid : isBlank c = false)
    (read : (Pattern.attempt (.run .inline extent (some slot) :: pieces) (lastBefore before blanks)
      (c :: shown)).isSome) :
    ∃ taken later,
      Pattern.attempt (gap :: .run .inline extent (some slot) :: pieces) before
        (blanks ++ c :: shown) = some ((slot, taken) :: later) ∧
      ∃ c ∈ taken, isBlank c = false := by
  obtain ⟨captures, found⟩ := Option.isSome_iff_exists.mp read
  obtain ⟨taken, rest, later, split, filled, -, -, rfl⟩ := exists_of_attempt_line found
  refine ⟨taken, later, ?_, c, ?_, solid⟩
  · refine Pattern.attempt_longest between.nonempty between.blank (fun d head => ?_) found
    obtain rfl := Option.some.inj head
    exact solid
  · obtain ⟨d, ds, rfl⟩ := List.exists_cons_of_ne_nil filled
    obtain rfl : c = d := (List.cons_eq_cons.mp split).1
    exact List.mem_cons_self

/-- **A context that can begin with something visible does so.** -/
theorem ContextClause.exists_attempt_eq (h : ContextClause context text)
    (visible : ∃ c ∈ context, isBlank c = false) (before : Option Char) :
    ∃ taken later, contextClause.attempt before text = some ((.context, taken) :: later) ∧
      ∃ c ∈ taken, isBlank c = false := by
  obtain @⟨gap₁, gap₂, gap₃, gap₄, condition, rest, first, second, -, line, third, fourth, asked,
    line'⟩ := h
  obtain ⟨blanks, c, shown, rfl, blank, solid⟩ := exists_visible visible
  -- the blanks that the context begins with go to those behind `from`
  have line : '\n' ∉ c :: shown := fun mem => line (List.mem_append_right _ mem)
  have between : IsGap (gap₂ ++ blanks) :=
    ⟨by simp [second.nonempty], List.forall_mem_append.mpr ⟨second.blank, blank⟩⟩
  obtain ⟨taken, later, found, shows⟩ := exists_attempt_gap_line between solid
    (attempt_context_isSome (List.cons_ne_nil c shown) line third fourth asked line'
      (lastBefore (lastBefore (lastBefore before gap₁) "from".toList) (gap₂ ++ blanks)) rest)
  refine ⟨taken, later, ?_, shows⟩
  refine Pattern.attempt_longest first.nonempty first.blank (fun d head => ?_) ?_
  · obtain rfl := Option.some.inj head
    decide
  rw [say, Pattern.attempt_word, List.append_assoc, ← List.append_assoc gap₂]
  exact found

/-- A condition shows something, when the text ends with something visible. -/
theorem exists_condition_of_attempt (h : contextClause.attempt before text = some captures)
    (ends : ∀ c ∈ text.getLast?, isBlank c = false) :
    ∃ condition, captures.get? .condition = some condition ∧
      ∃ c ∈ condition, isBlank c = false := by
  obtain ⟨gap₁, gap₂, context, gap₃, behind, before', later, rfl, -, -, -, -, -, found, rfl⟩ :=
    exists_of_attempt_contextClause h
  obtain ⟨gap₄, rest, split, fourth, -⟩ := exists_of_attempt_gap found
  obtain ⟨d, ds, rfl⟩ := List.exists_cons_of_ne_nil fourth.nonempty
  have shows : ∃ c ∈ behind, isBlank c = false := by
    obtain ⟨cs, c, rfl⟩ := (List.eq_nil_or_concat behind).resolve_left (by simp [split])
    refine ⟨c, by simp, ends c ?_⟩
    simp only [List.concat_eq_append, List.getLast?_append, List.getLast?_singleton,
      Option.some_or, Option.mem_def]
  obtain ⟨blanks, c, shown, rfl, blank, solid⟩ := exists_visible shows
  have between : IsGap blanks := by
    refine ⟨?_, blank⟩
    rintro rfl
    -- the text behind `where` begins with a blank
    obtain rfl : c = d := (List.cons_eq_cons.mp split).1
    rw [fourth.blank c List.mem_cons_self] at solid
    cases solid
  have inline : '\n' ∉ [c] := by
    rw [List.mem_singleton]
    rintro rfl
    exact absurd solid (by decide)
  have read : (Pattern.attempt [upToEnd .condition] (lastBefore before' blanks)
      (c :: shown)).isSome :=
    Piece.attempt_isSome (.run (List.cons_ne_nil c []) (holds_inline inline)) rfl
  obtain ⟨taken, later', found', visible⟩ := exists_attempt_gap_line between solid read
  obtain rfl := Option.some.inj (found.symm.trans found')
  refine ⟨taken, ?_, visible⟩
  rw [get?_cons, if_neg (by decide), get?_cons, if_pos rfl]

/-- Whether the context that is read is blank. -/
theorem blank_of_attempt_iff (found : contextClause.attempt before text = some captures) :
    ∃ context, captures.get? .context = some context ∧
      ((∀ c ∈ context, isBlank c = true) ↔
        ∀ context, ContextClause context text → ∀ c ∈ context, isBlank c = true) := by
  obtain ⟨context, got, clause⟩ := contextClause_of_attempt found
  refine ⟨context, got, fun blank other clause' c mem => ?_, fun all => all context clause⟩
  by_contra solid
  obtain ⟨taken, later, read, d, inside, visible⟩ :=
    clause'.exists_attempt_eq ⟨c, mem, by simpa using solid⟩ before
  obtain rfl := Option.some.inj (found.symm.trans read)
  rw [get?_cons, if_pos rfl] at got
  obtain rfl := Option.some.inj got
  rw [blank d inside] at visible
  cases visible

/-! ### Which clause is read -/

/-- What a text holds on its last line. -/
theorem exists_lastLine (filled : ∃ c ∈ text.getLast?, c ≠ '\n') :
    ∃ front line, text = front ++ line ∧ line ≠ [] ∧ '\n' ∉ line ∧
      ∀ c ∈ front.getLast?, c = '\n' := by
  obtain ⟨c, last, other⟩ := filled
  by_cases broken : '\n' ∈ text
  · obtain ⟨line, front, split, free⟩ := List.eq_append_cons_of_mem (List.mem_reverse.mpr broken)
    have parted : text = (front.reverse ++ ['\n']) ++ line.reverse := by
      rw [← List.reverse_reverse text, split]
      simp
    refine ⟨front.reverse ++ ['\n'], line.reverse, parted, fun none => ?_, by simpa using free,
      by simp⟩
    rw [parted, none] at last
    exact other (by simpa using last.symm)
  · refine ⟨[], text, rfl, ?_, broken, by simp⟩
    rintro rfl
    cases last

theorem lastBefore_getLast? (front text : List Char) :
    lastBefore front.getLast? text = (front ++ text).getLast? :=
  List.getLast?_append.symm

/-- A text without line feeds ends with something else. -/
theorem exists_getLast?_append (filled : text ≠ []) (line : '\n' ∉ text) (front : List Char) :
    ∃ c ∈ (front ++ text).getLast?, c ≠ '\n' := by
  obtain ⟨cs, c, rfl⟩ := (List.eq_nil_or_concat text).resolve_left filled
  refine ⟨c, by simp [← List.append_assoc], ?_⟩
  rintro rfl
  exact line (by simp)

/-- The first clause of a phrase is read, behind what stands in front of it on its line. -/
theorem FirstClause.find?_eq (h : FirstClause phrase front behind)
    (found : contextClause.attempt front.getLast? behind = some captures) :
    ∃ operation, Pattern.find? (some? .operation :: contextClause) phrase =
      some ((.operation, operation) :: captures) := by
  obtain ⟨above, line, rfl, filled, single, broken⟩ := exists_lastLine h.reads.filled
  have earlier : ∀ before back, above ++ line = before ++ back → back ≠ [] →
      (∃ c ∈ before.getLast?, c ≠ '\n') →
      contextClause.attempt before.getLast? (back ++ behind) = none := by
    intro before back split some filled
    rw [Option.eq_none_iff_forall_ne_some]
    intro captures read
    obtain ⟨context, -, clause⟩ := contextClause_of_attempt read
    exact h.first before back split some ⟨filled, context, clause⟩
  refine ⟨line, ?_⟩
  rw [h.split, List.append_assoc]
  refine Pattern.find?_append (fun before back split some => ?_) ?_
  · -- an operation on a line above would have an earlier clause behind it
    rw [Option.eq_none_iff_forall_ne_some]
    intro captures read
    obtain ⟨taken, rest, later, same, nonempty, free, read, -⟩ := exists_of_attempt_line read
    have feed : '\n' ∈ back := by
      obtain ⟨cs, c, rfl⟩ := (List.eq_nil_or_concat back).resolve_left some
      obtain rfl := broken c (by simp [split, ← List.append_assoc])
      simp
    rcases List.append_eq_append_iff.mp same with ⟨beyond, rfl, -⟩ | ⟨beyond, rfl, rfl⟩
    · exact free (List.mem_append_left _ feed)
    · have none := earlier (before ++ taken) (beyond ++ line) (by simp [split])
        (by simp [filled]) (exists_getLast?_append nonempty free before)
      rw [lastBefore_getLast?, ← List.append_assoc, none] at read
      cases read
  · refine Pattern.attempt_shortest filled (holds_inline single)
      (fun ahead back split some some' => ?_) (by rwa [lastBefore_getLast?])
    have free : '\n' ∉ ahead := fun mem => single (by simp [split, mem])
    rw [lastBefore_getLast?]
    exact earlier (above ++ ahead) back (by simp [split]) some'
      (exists_getLast?_append some free above)

/-- Where a filter with a context is found, its clause is the first one. -/
theorem exists_firstClause_of_find?
    (h : Pattern.find? (some? .operation :: contextClause) phrase = some captures) :
    ∃ front behind operation later, FirstClause phrase front behind ∧
      contextClause.attempt front.getLast? behind = some later ∧
      captures = (.operation, operation) :: later := by
  obtain ⟨front, behind, rfl, read⟩ := Pattern.exists_attempt_of_find? h
  obtain ⟨taken, behind, later, rfl, nonempty, free, read, -⟩ := exists_of_attempt_line read
  obtain ⟨context, -, clause⟩ := contextClause_of_attempt read
  -- the operation might run on to a later clause, so the first one is looked for
  have somewhere : ReadsClause (front ++ taken) behind :=
    ⟨exists_getLast?_append nonempty free front, context, clause⟩
  obtain ⟨before, back, split, reads, first⟩ := exists_first somewhere
  have firstClause : FirstClause (front ++ (taken ++ behind)) before (back ++ behind) :=
    ⟨by rw [← List.append_assoc, split, List.append_assoc], reads, first⟩
  obtain ⟨context, clause⟩ := reads.clause
  obtain ⟨found, read⟩ := Option.isSome_iff_exists.mp (clause.attempt_isSome before.getLast?)
  obtain ⟨operation, same⟩ := firstClause.find?_eq read
  exact ⟨before, back ++ behind, operation, found, firstClause, read,
    Option.some.inj (h.symm.trans same)⟩

/-! ### Filters -/

/-- A phrase ends with something visible. -/
theorem solid_getLast_phraseOf (question : String) :
    ∀ c ∈ (phraseOf question).getLast?, isBlank c = false :=
  solid_getLast_lowercase not_of_mem_getLast?_trimWith

/-- A condition that shows something has a predicate. -/
theorem filterPredicate_ne_nil (visible : ∃ c ∈ text, isBlank c = false) :
    filterPredicate text ≠ [] := by
  have rules : ∀ rule ∈ filterRules, rule.2.toList ≠ [] := by decide
  have unfolded : filterPredicate text =
      ((filterRules.find? fun rule => occursIn rule.1.toList (lowercase (trim text))).map
        (·.2.toList)).getD (lowercase (trim text)) := rfl
  rw [unfolded]
  cases chosen : filterRules.find? fun rule => occursIn rule.1.toList (lowercase (trim text)) with
  | some rule => exact rules rule (List.mem_of_find?_eq_some chosen)
  | none =>
      refine lowercase_ne_nil fun none => ?_
      obtain ⟨c, mem, solid⟩ := visible
      rw [trimWith_eq_nil_iff.mp none c mem] at solid
      cases solid

/-- Only a phrasing with a context clause makes a filter. -/
theorem exists_find?_of_filtering {question context predicate : String} {operation : Operation}
    (h : intent? question = some (.filtering operation context predicate)) :
    ∃ captures named, Pattern.find? (some? .operation :: contextClause) (phraseOf question) =
        some captures ∧ captures.get? .context = some named ∧ context = String.ofList (trim named) ∧
      predicate ≠ "" := by
  obtain ⟨pattern, mem, captures, found, made⟩ := exists_captures_of_intent? h
  obtain ⟨clause, named, condition, -, got, -, nonempty, parts⟩ := Category.intent?_filtering made
  obtain ⟨-, rfl, rfl⟩ := Intent.filtering.inj parts
  have contextual : ∀ pattern ∈ Category.filtering.patterns,
      (∃ piece ∈ pattern, piece.slot? = some .context) →
      pattern = some? .operation :: contextClause := by decide
  obtain ⟨front, matched, rest, -, reads⟩ := Pattern.reads_of_find? found
  obtain ⟨piece, inside, slot, -⟩ := reads.spells_of_get? got
  obtain rfl := contextual pattern mem ⟨piece, inside, slot⟩
  exact ⟨captures, named, found, got, rfl, by simpa using nonempty⟩

/-- A phrase with a clause is a filter, when no earlier category occurs. -/
theorem exists_intent?_of_firstClause {question : String}
    (first : FirstClause (phraseOf question) front behind)
    (earlier : ∀ j : Category, j.rank < Category.filtering.rank →
      ¬ j.OccursIn (phraseOf question)) :
    ∃ operation context predicate,
      intent? question = some (.filtering operation context predicate) := by
  obtain ⟨context, clause⟩ := first.reads.clause
  obtain ⟨later, read⟩ := Option.isSome_iff_exists.mp (clause.attempt_isSome front.getLast?)
  obtain ⟨operation, found⟩ := first.find?_eq read
  have captures : Category.filtering.captures? (phraseOf question) =
      some ((.operation, operation) :: later) := by
    rw [Category.captures?, Category.patterns, List.findSome?_cons, ← contextClause, found]
  have ends : ∀ c ∈ behind.getLast?, isBlank c = false := by
    intro c last
    refine solid_getLast_phraseOf question c ?_
    rw [first.split, List.getLast?_append, Option.mem_def.mp last]
    rfl
  obtain ⟨named, got, -⟩ := contextClause_of_attempt read
  obtain ⟨condition, got', visible⟩ := exists_condition_of_attempt read ends
  have predicate := filterPredicate_ne_nil visible
  refine ⟨Operation.ofClause operation, String.ofList (trim named),
    String.ofList (filterPredicate condition), ?_⟩
  rw [intent?_of_captures? captures earlier, Category.intent?]
  simp [get?_cons, got, got', predicate]

theorem ofList_trim_eq_empty_iff :
    String.ofList (trim text) = "" ↔ ∀ c ∈ text, isBlank c = true := by
  rw [← String.toList_inj, String.toList_ofList]
  exact trimWith_eq_nil_iff

/-- Where a context is blank, there are three blanks or more between a `from` and a `where`. -/
theorem HasBlankContext.exists_blanks (h : HasBlankContext phrase) :
    ∃ blanks, IsGap blanks ∧ 3 ≤ blanks.length ∧
      "from".toList ++ (blanks ++ "where".toList) <:+: phrase := by
  obtain ⟨front, behind, first, blank⟩ := h
  obtain ⟨context, clause⟩ := first.reads.clause
  have blanks := blank context clause
  obtain @⟨gap₁, gap₂, gap₃, gap₄, condition, rest, -, second, named, -, third, -, -, -⟩ := clause
  refine ⟨gap₂ ++ (context ++ gap₃), ⟨by simp [named], ?_⟩, ?_, ?_⟩
  · exact List.forall_mem_append.mpr
      ⟨second.blank, List.forall_mem_append.mpr ⟨blanks, third.blank⟩⟩
  · have filled := List.length_pos_iff.mpr second.nonempty
    have filled' := List.length_pos_iff.mpr named
    have filled'' := List.length_pos_iff.mpr third.nonempty
    rw [List.length_append, List.length_append]
    omega
  · exact ⟨front ++ gap₁, gap₄ ++ (condition ++ rest), by simp [first.split]⟩

theorem context_eq_empty_iff {question context predicate : String} {operation : Operation}
    (h : intent? question = some (.filtering operation context predicate)) :
    context = "" ↔ HasBlankContext (phraseOf question) := by
  obtain ⟨captures, named, found, got, rfl, -⟩ := exists_find?_of_filtering h
  obtain ⟨front, behind, clause, later, first, read, rfl⟩ := exists_firstClause_of_find? found
  obtain ⟨context, got', blank⟩ := blank_of_attempt_iff read
  rw [get?_cons, if_neg (by decide)] at got
  obtain rfl : named = context := Option.some.inj (got.symm.trans got')
  rw [ofList_trim_eq_empty_iff, blank]
  constructor
  · exact fun all => ⟨front, behind, first, all⟩
  · rintro ⟨front', behind', first', all⟩
    obtain ⟨rfl, rfl⟩ := first.unique first'
    exact all

/-- **When a filter has no context.**  A filter always has a predicate.  It has no context exactly
when the first clause of its phrase leaves blanks only for one, where three blanks or more stand
between a `from` and a `where`; and every such phrase is a filter, unless an earlier category
occurs. -/
theorem filtering_context_eq_empty_iff (question : String) :
    (∀ operation context predicate,
      intent? question = some (.filtering operation context predicate) →
      predicate ≠ "" ∧ (context = "" ↔ HasBlankContext (phraseOf question))) ∧
    (HasBlankContext (phraseOf question) →
      (∃ blanks, IsGap blanks ∧ 3 ≤ blanks.length ∧
        "from".toList ++ (blanks ++ "where".toList) <:+: phraseOf question) ∧
      ((∀ j : Category, j.rank < Category.filtering.rank → ¬ j.OccursIn (phraseOf question)) →
        ∃ operation predicate, intent? question = some (.filtering operation "" predicate))) := by
  refine ⟨fun operation context predicate h => ?_, fun blank => ⟨blank.exists_blanks, fun earlier =>
    ?_⟩⟩
  · obtain ⟨-, -, -, -, -, nonempty⟩ := exists_find?_of_filtering h
    exact ⟨nonempty, context_eq_empty_iff h⟩
  · have ⟨_, _, first, _⟩ := blank
    obtain ⟨operation, context, predicate, h⟩ := exists_intent?_of_firstClause first earlier
    obtain rfl := (context_eq_empty_iff h).mpr blank
    exact ⟨operation, predicate, h⟩

/-- A filter on two lines, with three blanks for the context on the first and a word on the
second. -/
def twoLineQuestion : String := "Show logs FROM \t where errors\nfrom gateway where all"

theorem filtering_context_eq_empty_iff_twoLine :
    intent? twoLineQuestion =
      some (.filtering .list "" "status = 'error' OR level = 'error'") ∧
    HasBlankContext (phraseOf twoLineQuestion) := by
  have meaning : intent? twoLineQuestion =
      some (.filtering .list "" "status = 'error' OR level = 'error'") := by decide +kernel
  exact ⟨meaning, ((filtering_context_eq_empty_iff _).1 _ _ _ meaning).2.mp rfl⟩

/-- Not every filter has a context. -/
theorem not_filtering_context_ne_empty :
    ¬ ∀ (question context predicate : String) (operation : Operation),
      intent? question = some (.filtering operation context predicate) →
      context ≠ "" ∧ predicate ≠ "" := by
  intro all
  have meaning : intent? "show logs from   where errors" =
      some (.filtering .list "" "status = 'error' OR level = 'error'") := by decide +kernel
  exact (all _ _ _ _ meaning).1 rfl

end Enquiry.Question
