import Mathlib.Tactic.Tauto
import Mathlib.Tactic.ByContra
import Enquiry.Proofs.Pattern.Backtracking

/-!
# The language of a pattern, and what is found of it

`Pattern.Reads` is `Pattern.Spells` with the captures of the reading.

**An attempt is sound**: what it captures are the captures of a reading (`Pattern.reads_of_attempt`);
**and complete**: where the pattern spells the front of the text, the attempt succeeds
(`Pattern.attempt_isSome_of_spells`), although the reading it takes may be another one.  Hence
`Pattern.find?` succeeds exactly when the pattern occurs in the text
(`Pattern.find?_isSome_iff`), whichever way the runs prefer.
-/

namespace Enquiry

open Text

/-- The slot that a piece keeps its text in. -/
def Piece.slot? : Piece → Option Slot
  | .run _ _ slot => slot
  | .choice slot _ => some slot
  | .word _ | .optional _ | .edge | .finish => none

/-- A pattern stands for `text`, which has `before` in front of it and `rest` behind it, and its
slots for the captures. -/
inductive Pattern.Reads : Pattern → Option Char → List Char → List Char → Captures → Prop
  | nil (before : Option Char) (rest : List Char) : Reads [] before [] rest []
  | cons {piece : Piece} {pieces : Pattern} {before : Option Char} {first second rest : List Char}
      {captures : Captures} (head : piece.Spells before (second ++ rest) first)
      (tail : Reads pieces (lastBefore before first) second rest captures) :
      Reads (piece :: pieces) before (first ++ second) rest (keep piece.slot? first captures)

/-- Some part of the text is one that the pattern stands for, where it is. -/
def Pattern.OccursIn (pattern : Pattern) (text : List Char) : Prop :=
  ∃ front matched rest, text = front ++ matched ++ rest ∧
    pattern.Spells front.getLast? matched rest

theorem Pattern.Reads.spells {pattern : Pattern} {before : Option Char} {text rest : List Char}
    {captures : Captures} (h : pattern.Reads before text rest captures) :
    pattern.Spells before text rest := by
  induction h with
  | nil => exact .nil _ _
  | cons head _ ih => exact .cons head ih

theorem Piece.Spells.singleton {piece : Piece} {before : Option Char} {text rest : List Char}
    (h : piece.Spells before rest text) : Pattern.Spells [piece] before text rest := by
  have alone : Pattern.Spells [piece] before (text ++ []) rest := .cons h (.nil _ _)
  rwa [List.append_nil] at alone

/-- A pattern with a run stands for texts with a character of its class only. -/
theorem Pattern.Spells.exists_of_run {cls : CharClass} {extent : Extent} {slot : Option Slot}
    {pattern : Pattern} {before : Option Char} {text rest : List Char}
    (h : pattern.Spells before text rest) (mem : Piece.run cls extent slot ∈ pattern) :
    ∃ c ∈ text, cls.holds c = true := by
  induction h with
  | nil => cases mem
  | cons head _ ih =>
      rcases List.mem_cons.mp mem with rfl | mem
      · cases head with
        | run nonempty holds =>
            obtain ⟨c, cs, rfl⟩ := List.exists_cons_of_ne_nil nonempty
            exact ⟨c, List.mem_append_left _ List.mem_cons_self, holds c List.mem_cons_self⟩
      · obtain ⟨c, inside, holds⟩ := ih mem
        exact ⟨c, List.mem_append_right _ inside, holds⟩

/-- A pattern with a word stands for texts with that word in them only. -/
theorem Pattern.Spells.infix_of_word {w : List Char} {pattern : Pattern} {before : Option Char}
    {text rest : List Char} (h : pattern.Spells before text rest) (mem : Piece.word w ∈ pattern) :
    w <:+: text := by
  induction h with
  | nil => cases mem
  | @cons _ _ _ first second _ head _ ih =>
      rcases List.mem_cons.mp mem with rfl | mem
      · cases head
        exact (List.prefix_append w second).isInfix
      · exact (ih mem).trans (List.suffix_append first second).isInfix

/-- Where a pattern with a word occurs, the word does. -/
theorem Pattern.OccursIn.infix_of_word {w : List Char} {pattern : Pattern} {text : List Char}
    (h : pattern.OccursIn text) (mem : Piece.word w ∈ pattern) : w <:+: text := by
  obtain ⟨front, matched, rest, rfl, spelled⟩ := h
  exact (spelled.infix_of_word mem).trans ⟨front, rest, rfl⟩

/-! ### Soundness -/

theorem exists_of_attemptWord {α : Type} {w : List Char} {next : Attempt α}
    {before : Option Char} {text : List Char} {a : α}
    (h : attemptWord w next before text = some a) :
    ∃ rest, text = w ++ rest ∧ next (lastBefore before w) rest = some a := by
  unfold attemptWord at h
  split at h
  next starts =>
      obtain ⟨rest, rfl⟩ := List.isPrefixOf_iff_prefix.mp starts
      exact ⟨rest, rfl, by simpa using h⟩
  next => cases h

theorem exists_of_attemptRun {cls : CharClass} {extent : Extent} {next : Attempt Captures}
    {before : Option Char} {text taken : List Char} {captures : Captures}
    (h : attemptRun cls extent next before text = some (taken, captures)) :
    ∃ rest, text = taken ++ rest ∧ taken ≠ [] ∧ (∀ c ∈ taken, cls.holds c = true) ∧
      next (lastBefore before taken) rest = some captures := by
  induction text generalizing before taken with
  | nil => cases h
  | cons c cs ih =>
      rw [attemptRun] at h
      split at h
      next holds =>
          -- whichever is preferred, the run has stopped here or gone on
          have either : (∃ found, next (some c) cs = some found ∧
                ([c], found) = (taken, captures)) ∨
              ∃ run, attemptRun cls extent next (some c) cs = some run ∧
                (c :: run.1, run.2) = (taken, captures) := by
            cases extent <;> simp only [Option.or_eq_some_iff, Option.map_eq_some_iff] at h
            case shortest => exact h.imp_right And.right
            case longest => exact (h.imp_right And.right).symm
          rcases either with ⟨_, found, e⟩ | ⟨⟨taken', _⟩, found, e⟩
          · obtain ⟨rfl, rfl⟩ := Prod.mk.inj e
            exact ⟨cs, rfl, by simp, by simpa using holds, by simpa using found⟩
          · obtain ⟨rfl, rfl⟩ := Prod.mk.inj e
            obtain ⟨rest, rfl, -, all, found⟩ := ih found
            exact ⟨rest, rfl, by simp, by simpa using ⟨holds, all⟩, by simpa using found⟩
      next => cases h

/-- What a piece and the rest of the pattern capture, the piece has spelled and the rest has
captured behind it. -/
theorem Piece.exists_of_attempt {piece : Piece} {next : Attempt Captures}
    {before : Option Char} {text : List Char} {captures : Captures}
    (h : piece.attempt next before text = some captures) :
    ∃ first rest later, text = first ++ rest ∧ piece.Spells before rest first ∧
      next (lastBefore before first) rest = some later ∧
      captures = keep piece.slot? first later := by
  cases piece with
  | word w =>
      obtain ⟨rest, rfl, found⟩ := exists_of_attemptWord h
      exact ⟨w, rest, captures, rfl, .word w, found, rfl⟩
  | run cls extent slot =>
      obtain ⟨⟨taken, later⟩, ran, rfl⟩ := Option.map_eq_some_iff.mp h
      obtain ⟨rest, rfl, nonempty, holds, found⟩ := exists_of_attemptRun ran
      exact ⟨taken, rest, later, rfl, .run nonempty holds, found, rfl⟩
  | choice slot ws =>
      obtain ⟨w, mem, chosen⟩ := List.exists_of_findSome?_eq_some h
      obtain ⟨later, spelled, rfl⟩ := Option.map_eq_some_iff.mp chosen
      obtain ⟨rest, rfl, found⟩ := exists_of_attemptWord spelled
      exact ⟨w, rest, later, rfl, .choice mem, found, rfl⟩
  | optional c =>
      rcases Option.or_eq_some_iff.mp h with present | ⟨-, absent⟩
      · obtain ⟨rest, rfl, found⟩ := exists_of_attemptWord present
        exact ⟨[c], rest, captures, rfl, .present c, found, rfl⟩
      · exact ⟨[], text, captures, rfl, .absent c, absent, rfl⟩
  | edge =>
      obtain ⟨boundary, found⟩ := Option.ite_none_right_eq_some.mp h
      exact ⟨[], text, captures, rfl, .edge boundary, found, rfl⟩
  | finish =>
      obtain ⟨done, found⟩ := Option.ite_none_right_eq_some.mp h
      exact ⟨[], text, captures, rfl, .finish (List.isEmpty_iff.mp done), found, rfl⟩

/-- **Soundness.**  An attempt captures what a reading captures. -/
theorem Pattern.reads_of_attempt {pattern : Pattern} {before : Option Char} {text : List Char}
    {captures : Captures} (h : pattern.attempt before text = some captures) :
    ∃ matched rest, text = matched ++ rest ∧ pattern.Reads before matched rest captures := by
  induction pattern generalizing before text captures with
  | nil =>
      cases h
      exact ⟨[], text, rfl, .nil _ _⟩
  | cons piece pieces ih =>
      obtain ⟨first, behind, later, rfl, spelled, found, rfl⟩ := Piece.exists_of_attempt h
      obtain ⟨second, rest, rfl, read⟩ := ih found
      exact ⟨first ++ second, rest, by simp, .cons spelled read⟩

/-! ### Completeness -/

theorem attemptWord_append {α : Type} (w : List Char) (next : Attempt α)
    (before : Option Char) (rest : List Char) :
    attemptWord w next before (w ++ rest) = next (lastBefore before w) rest := by
  simp [attemptWord]

theorem attemptRun_isSome {cls : CharClass} {extent : Extent} {next : Attempt Captures}
    {before : Option Char} {taken rest : List Char} (nonempty : taken ≠ [])
    (holds : ∀ c ∈ taken, cls.holds c = true)
    (h : (next (lastBefore before taken) rest).isSome) :
    (attemptRun cls extent next before (taken ++ rest)).isSome := by
  induction taken generalizing before with
  | nil => exact absurd rfl nonempty
  | cons c cs ih =>
      obtain ⟨here, later⟩ := List.forall_mem_cons.mp holds
      -- the run may stop at `c`, or go on behind it
      have either : (next (some c) (cs ++ rest)).isSome ∨
          (attemptRun cls extent next (some c) (cs ++ rest)).isSome := by
        cases cs with
        | nil => exact .inl (by simpa using h)
        | cons d ds => exact .inr (ih (by simp) later (by simpa using h))
      cases extent <;>
        simp only [List.cons_append, attemptRun, here, if_true, Option.isSome_or,
          Option.isSome_map, Bool.or_eq_true] <;> tauto

/-- A piece that spells what is in front of it leaves the rest to what follows, whatever it
prefers. -/
theorem Piece.attempt_isSome {piece : Piece} {next : Attempt Captures} {before : Option Char}
    {first rest : List Char} (head : piece.Spells before rest first)
    (h : (next (lastBefore before first) rest).isSome) :
    (piece.attempt next before (first ++ rest)).isSome := by
  cases head with
  | word => rwa [Piece.attempt, attemptWord_append]
  | run nonempty holds =>
      rw [Piece.attempt, Option.isSome_map]
      exact attemptRun_isSome nonempty holds h
  | choice mem =>
      refine List.findSome?_isSome_iff.mpr ⟨first, mem, ?_⟩
      rwa [Option.isSome_map, attemptWord_append]
  | present c =>
      rw [Piece.attempt, Option.isSome_or, attemptWord_append, h, Bool.true_or]
  | absent c =>
      have absent : (next before rest).isSome := h
      simp only [Piece.attempt, Option.isSome_or, List.nil_append, absent, Bool.or_true]
  | edge boundary =>
      simpa only [Piece.attempt, List.nil_append, boundary, if_true, lastBefore_nil] using h
  | finish done =>
      subst done
      exact h

/-- **Completeness.**  Where a pattern spells the front of the text, the attempt succeeds. -/
theorem Pattern.attempt_isSome_of_spells {pattern : Pattern} {before : Option Char}
    {matched rest : List Char} (h : pattern.Spells before matched rest) :
    (pattern.attempt before (matched ++ rest)).isSome := by
  induction h with
  | nil => rfl
  | cons head _ ih =>
      rw [List.append_assoc]
      exact Piece.attempt_isSome head ih

/-! ### What is found -/

/-- What is found are the captures of a reading of a part of the text. -/
theorem Pattern.reads_of_find? {pattern : Pattern} {text : List Char} {captures : Captures}
    (h : pattern.find? text = some captures) :
    ∃ front matched rest, text = front ++ matched ++ rest ∧
      pattern.Reads front.getLast? matched rest captures := by
  obtain ⟨front, behind, rfl, found⟩ := Pattern.exists_attempt_of_find? h
  obtain ⟨matched, rest, rfl, read⟩ := Pattern.reads_of_attempt found
  exact ⟨front, matched, rest, (List.append_assoc ..).symm, read⟩

/-- **A pattern is found exactly when it occurs.** -/
theorem Pattern.find?_isSome_iff {pattern : Pattern} {text : List Char} :
    (pattern.find? text).isSome ↔ pattern.OccursIn text := by
  constructor
  · intro h
    obtain ⟨captures, found⟩ := Option.isSome_iff_exists.mp h
    obtain ⟨front, matched, rest, e, read⟩ := Pattern.reads_of_find? found
    exact ⟨front, matched, rest, e, read.spells⟩
  · rintro ⟨front, matched, rest, rfl, spelled⟩
    by_contra h
    have none : pattern.find? (front ++ matched ++ rest) = none := by simpa using h
    have fails := Pattern.find?_eq_none_iff.mp none front (matched ++ rest) (by simp)
    have succeeds := Pattern.attempt_isSome_of_spells spelled
    rw [fails] at succeeds
    cases succeeds

theorem get?_keep (slot? : Option Slot) (text : List Char) (captures : Captures) (slot : Slot) :
    (Captures.get? (keep slot? text captures) slot) =
      if slot? = some slot then some text else captures.get? slot := by
  cases slot? with
  | none => rfl
  | some s =>
      by_cases e : s = slot
      · subst e
        simp [keep, Captures.get?]
      · have ne : (slot == s) = false := by simpa using Ne.symm e
        simp [keep, Captures.get?, List.lookup_cons, ne, e]

theorem get?_cons (slot : Slot) (text : List Char) (captures : Captures) (slot' : Slot) :
    Captures.get? ((slot, text) :: captures) slot' =
      if slot = slot' then some text else captures.get? slot' := by
  have kept := get?_keep (some slot) text captures slot'
  simp only [Option.some.injEq] at kept
  exact kept

/-- What a slot has captured, a piece with that slot has spelled. -/
theorem Pattern.Reads.spells_of_get? {pattern : Pattern} {before : Option Char}
    {text rest : List Char} {captures : Captures} {slot : Slot} {part : List Char}
    (h : pattern.Reads before text rest captures) (got : captures.get? slot = some part) :
    ∃ piece ∈ pattern, piece.slot? = some slot ∧ ∃ before' rest', piece.Spells before' rest' part := by
  induction h with
  | nil => cases got
  | @cons piece pieces before first second rest captures head tail ih =>
      rw [get?_keep] at got
      split at got
      next is =>
          obtain rfl := Option.some.inj got
          exact ⟨piece, List.mem_cons_self .., is, before, second ++ rest, head⟩
      next =>
          obtain ⟨piece', mem, is, spelled⟩ := ih got
          exact ⟨piece', List.mem_cons_of_mem _ mem, is, spelled⟩

/-- What a slot has captured is a part of the text. -/
theorem Pattern.Reads.infix_of_get? {pattern : Pattern} {before : Option Char}
    {text rest : List Char} {captures : Captures} {slot : Slot} {part : List Char}
    (h : pattern.Reads before text rest captures) (got : captures.get? slot = some part) :
    part <:+: text := by
  induction h with
  | nil => cases got
  | @cons piece pieces before first second rest captures head tail ih =>
      rw [get?_keep] at got
      split at got
      next =>
          obtain rfl := Option.some.inj got
          exact (List.prefix_append first second).isInfix
      next => exact (ih got).trans (List.suffix_append first second).isInfix

/-- What is captured is a part of the text that was searched. -/
theorem Pattern.infix_of_find? {pattern : Pattern} {text : List Char} {captures : Captures}
    {slot : Slot} {part : List Char} (found : pattern.find? text = some captures)
    (got : captures.get? slot = some part) : part <:+: text := by
  obtain ⟨front, matched, rest, rfl, read⟩ := Pattern.reads_of_find? found
  exact (read.infix_of_get? got).trans ⟨front, rest, rfl⟩

end Enquiry
