import Enquiry.Proofs.Record.Truncation
import Enquiry.Proofs.Text.Utf8
import Mathlib.Data.List.Forall2

/-!
# The warnings of an output

Of the lines of an output those are taken that fit under the cap, or those up to the object at the
cap (`Taken`).  Each of them that holds no object is skipped, and has one warning (`Reports`): it
says whether the line is JSON, and shows the line, with U+FFFD for what is ill-formed in it and cut
behind its hundredth character.

**The warnings mirror the result** (`warnings_mirror`): they are those of the skipped lines in their
order, and one more behind them when the result is truncated.
-/

namespace Enquiry

open Text Json

variable {line : List UInt8}

/-- What is taken of filled lines: all of them when they fit, and those up to the object at the cap
when there are more behind it. -/
inductive Taken (cap : Nat) : List (List UInt8) → List (List UInt8) → Prop
  | all {lines : List (List UInt8)} (fits : Fits cap lines) : Taken cap lines lines
  | some {front back : List (List UInt8)} (upTo : UpTo cap front) (more : back ≠ []) :
      Taken cap (front ++ back) front

/-- A text of more than a hundred characters is cut behind them, and dots show it. -/
def shortened (text : List Char) : List Char :=
  if 100 < text.length then text.take 100 ++ "...".toList else text

/-- The warning of a trimmed line that holds no object. -/
structure Reports (line : List UInt8) (warning : Warning) : Prop where
  noObject : object? line = none
  message : warning.message =
    if (Value.ofBytes? line).isSome then "Skipping result line that is not a JSON object"
    else "Failed to parse line as JSON"
  shown : ∃ text, Utf8.Repaired line text ∧ warning.line? = some (String.ofList (shortened text))

/-! ### One line -/

theorem exists_preview_eq (line : List UInt8) :
    ∃ text, Utf8.Repaired line text ∧ preview line = String.ofList (shortened text) :=
  ⟨_, Utf8.repaired_decodeLossy line, rfl⟩

theorem reports_skipWarning (other : object? line = none) : Reports line (skipWarning line) := by
  obtain ⟨text, repaired, shown⟩ := exists_preview_eq line
  unfold skipWarning
  cases read : (Value.ofBytes? line).isSome with
  | true =>
      rw [if_pos rfl]
      exact ⟨other, by rw [if_pos read]; rfl, text, repaired, congrArg some shown⟩
  | false =>
      rw [if_neg Bool.false_ne_true]
      exact ⟨other, by rw [if_neg (by simp [read])]; rfl, text, repaired, congrArg some shown⟩

/-! ### All lines -/

namespace Collector

theorem warnings_keepAll (c : Collector) (lines : List (List UInt8)) :
    (c.keepAll lines).warnings = c.warnings ++ (others lines).map skipWarning := by
  rw [keepAll_eq, warnings, List.reverse_append, List.reverse_reverse]
  rfl

theorem warnings_cut (c : Collector) : c.cut.warnings = c.warnings ++ [.truncated] :=
  List.reverse_cons

end Collector

/-- The lines that are taken say what is skipped and which warnings there are. -/
theorem exists_taken (output : List UInt8) (cap : Nat) :
    ∃ taken, Taken cap (filledLines output) taken ∧
      (ResultSet.ofOutput output cap).skippedLines = (others taken).length ∧
      (collectOutput output cap).warnings = (others taken).map skipWarning ++
        if (ResultSet.ofOutput output cap).truncated then [.truncated] else [] := by
  obtain fits | ⟨front, back, split, more, upTo⟩ := fits_or_upTo cap (filledLines output)
  · refine ⟨filledLines output, .all fits, ?_⟩
    rw [ResultSet.ofOutput_of_fits fits, collectOutput_of_fits fits, Collector.warnings_keepAll]
    exact ⟨rfl, (List.append_nil _).symm⟩
  · refine ⟨front, split ▸ .some upTo more, ?_⟩
    rw [ResultSet.ofOutput_of_upTo upTo split more, collectOutput_of_upTo upTo split more,
      Collector.warnings_cut, Collector.warnings_keepAll]
    exact ⟨rfl, rfl⟩

/-- **The warnings of an output mirror its result.** Each line that is counted as skipped has one
warning, in the order of the lines, and behind them stands the warning of a truncated result, once,
exactly when the result is truncated. -/
theorem warnings_mirror (output : List UInt8) (cap : Nat) :
    ∃ taken skips, Taken cap (filledLines output) taken ∧
      (ResultSet.ofOutput output cap).skippedLines = (others taken).length ∧
      List.Forall₂ Reports (others taken) skips ∧
      (collectOutput output cap).warnings = skips ++
        (if (ResultSet.ofOutput output cap).truncated then [.truncated] else []) ∧
      Warning.truncated.message = "Result set truncated" ∧ Warning.truncated.line? = none := by
  obtain ⟨taken, lines, count, warnings⟩ := exists_taken output cap
  refine ⟨taken, _, lines, count, ?_, warnings, rfl, rfl⟩
  rw [List.forall₂_map_right_iff, List.forall₂_same]
  intro line mem
  exact reports_skipWarning (Option.isNone_iff_eq_none.mp (List.mem_filter.mp mem).2)

end Enquiry
