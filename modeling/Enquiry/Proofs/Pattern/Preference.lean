import Enquiry.Proofs.Pattern.Language

/-!
# Which reading is preferred

`Pattern.attempt` takes the first reading in the order of preference.  Piece by piece, that is:

* a word is read where it stands (`Pattern.attempt_word`);
* **a longest run** takes all characters of its class, when the rest can be read behind them
  (`Pattern.attempt_longest`);
* **a shortest run** takes the first characters behind which the rest can be read
  (`Pattern.attempt_shortest`).

What is found of a pattern is the attempt from the first place where one succeeds
(`Pattern.find?_append`).
-/

namespace Enquiry

open Text

variable {cls : CharClass} {slot : Option Slot} {next : Attempt Captures} {pieces pattern : Pattern}
  {before : Option Char} {text front taken rest w : List Char} {captures : Captures}

/-! ### Charts of attempts -/

/-- The first entry of a chart of attempts is that of the first place where one succeeds. -/
theorem Chart.findSome?_tabulate_append {α : Type} {attempt : Attempt α} {a : α}
    (fails : ∀ front' behind, front = front' ++ behind → behind ≠ [] →
      attempt (lastBefore before front') (behind ++ rest) = none)
    (found : attempt (lastBefore before front) rest = some a) :
    (Chart.tabulate attempt before (front ++ rest)).findSome? id = some a := by
  induction front generalizing before with
  | nil =>
      rw [lastBefore_nil] at found
      cases rest with
      | nil => simp [Chart.tabulate, found]
      | cons c cs =>
          rw [List.nil_append, Chart.tabulate, List.findSome?_cons, id, found]
  | cons c cs ih =>
      have notHere := fails [] (c :: cs) rfl (List.cons_ne_nil c cs)
      rw [List.cons_append, lastBefore_nil] at notHere
      rw [List.cons_append, Chart.tabulate, List.findSome?_cons, id, notHere]
      refine ih (fun front' behind split some => ?_) (by simpa using found)
      simpa using fails (c :: front') behind (by simp [split]) some

/-! ### Runs -/

theorem attemptRun_cons {c : Char} {cs : List Char} (extent : Extent) (before : Option Char)
    (holds : cls.holds c = true) :
    attemptRun cls extent next before (c :: cs) =
      match extent with
      | .shortest => ((next (some c) cs).map fun captures => ([c], captures)).or
          ((attemptRun cls extent next (some c) cs).map fun run => (c :: run.1, run.2))
      | .longest => ((attemptRun cls extent next (some c) cs).map fun run => (c :: run.1, run.2)).or
          ((next (some c) cs).map fun captures => ([c], captures)) := by
  rw [attemptRun]
  exact if_pos holds

/-- There is no run where no character of the class stands. -/
theorem attemptRun_eq_none (extent : Extent) (before : Option Char)
    (stops : ∀ c ∈ text.head?, cls.holds c = false) :
    attemptRun cls extent next before text = none := by
  cases text with
  | nil => rfl
  | cons c cs =>
      have stop : ¬ cls.holds c = true := by simp [stops c rfl]
      rw [attemptRun, if_neg stop]

/-- A longest run takes all characters of its class. -/
theorem attemptRun_longest (nonempty : taken ≠ []) (holds : ∀ c ∈ taken, cls.holds c = true)
    (stops : ∀ c ∈ rest.head?, cls.holds c = false)
    (found : next (lastBefore before taken) rest = some captures) :
    attemptRun cls .longest next before (taken ++ rest) = some (taken, captures) := by
  induction taken generalizing before with
  | nil => exact absurd rfl nonempty
  | cons c cs ih =>
      obtain ⟨here, later⟩ := List.forall_mem_cons.mp holds
      rw [lastBefore_cons] at found
      rw [List.cons_append, attemptRun_cons .longest before here]
      cases cs with
      | nil =>
          rw [lastBefore_nil] at found
          simp only [List.nil_append, attemptRun_eq_none .longest (some c) stops, found]
          rfl
      | cons d ds =>
          simp only [ih (List.cons_ne_nil d ds) later found]
          rfl

/-- A shortest run takes the first characters behind which the rest can be read. -/
theorem attemptRun_shortest (nonempty : taken ≠ []) (holds : ∀ c ∈ taken, cls.holds c = true)
    (fails : ∀ front back, taken = front ++ back → front ≠ [] → back ≠ [] →
      next (lastBefore before front) (back ++ rest) = none)
    (found : next (lastBefore before taken) rest = some captures) :
    attemptRun cls .shortest next before (taken ++ rest) = some (taken, captures) := by
  induction taken generalizing before with
  | nil => exact absurd rfl nonempty
  | cons c cs ih =>
      obtain ⟨here, later⟩ := List.forall_mem_cons.mp holds
      rw [lastBefore_cons] at found
      rw [List.cons_append, attemptRun_cons .shortest before here]
      cases cs with
      | nil =>
          rw [lastBefore_nil] at found
          simp only [List.nil_append, found]
          rfl
      | cons d ds =>
          have notHere : next (some c) (d :: ds ++ rest) = none := by
            simpa using fails [c] (d :: ds) rfl (List.cons_ne_nil _ _) (List.cons_ne_nil _ _)
          have onward := ih (List.cons_ne_nil d ds) later
            (fun front back split some some' => by
              simpa using fails (c :: front) back (by simp [split]) (List.cons_ne_nil _ _) some')
            found
          simp only [notHere, onward]
          rfl

/-! ### Pieces in front of a pattern -/

namespace Pattern

theorem attempt_word (w : List Char) (pieces : Pattern) (before : Option Char)
    (rest : List Char) :
    Pattern.attempt (.word w :: pieces) before (w ++ rest) =
      Pattern.attempt pieces (lastBefore before w) rest :=
  attemptWord_append w _ before rest

theorem attempt_longest (nonempty : taken ≠ []) (holds : ∀ c ∈ taken, cls.holds c = true)
    (stops : ∀ c ∈ rest.head?, cls.holds c = false)
    (found : Pattern.attempt pieces (lastBefore before taken) rest = some captures) :
    Pattern.attempt (.run cls .longest slot :: pieces) before (taken ++ rest) =
      some (keep slot taken captures) := by
  rw [Pattern.attempt, Piece.attempt, attemptRun_longest nonempty holds stops found]
  rfl

/-- A longest run at the end of a pattern takes all of a text of its class. -/
theorem attempt_longest_last (nonempty : text ≠ []) (holds : ∀ c ∈ text, cls.holds c = true)
    (before : Option Char) :
    Pattern.attempt [.run cls .longest slot] before text = some (keep slot text []) := by
  have all : Pattern.attempt [.run cls .longest slot] before (text ++ []) =
      some (keep slot text []) := attempt_longest nonempty holds (by simp) rfl
  rwa [List.append_nil] at all

theorem attempt_shortest (nonempty : taken ≠ []) (holds : ∀ c ∈ taken, cls.holds c = true)
    (fails : ∀ front back, taken = front ++ back → front ≠ [] → back ≠ [] →
      Pattern.attempt pieces (lastBefore before front) (back ++ rest) = none)
    (found : Pattern.attempt pieces (lastBefore before taken) rest = some captures) :
    Pattern.attempt (.run cls .shortest slot :: pieces) before (taken ++ rest) =
      some (keep slot taken captures) := by
  rw [Pattern.attempt, Piece.attempt, attemptRun_shortest nonempty holds fails found]
  rfl

/-- Of some words the one is taken that stands there, when no other one does. -/
theorem attempt_choice {slot : Slot} {ws : List (List Char)} (mem : w ∈ ws)
    (single : ∀ v ∈ ws, v <+: w ++ rest → v = w)
    (found : Pattern.attempt pieces (lastBefore before w) rest = some captures) :
    Pattern.attempt (.choice slot ws :: pieces) before (w ++ rest) =
      some ((slot, w) :: captures) := by
  rw [Pattern.attempt, Piece.attempt]
  induction ws with
  | nil => cases mem
  | cons v vs ih =>
      obtain ⟨here, later⟩ := List.forall_mem_cons.mp single
      rw [List.findSome?_cons]
      by_cases same : v = w
      · rw [same, attemptWord_append, found]
        rfl
      · have other : attemptWord v (Pattern.attempt pieces) before (w ++ rest) = none := by
          rw [attemptWord, if_neg]
          exact fun starts => same (here (List.isPrefixOf_iff_prefix.mp starts))
        rw [other]
        exact ih ((List.mem_cons.mp mem).resolve_left (Ne.symm same)) later

/-! ### What is found -/

/-- What is found is the attempt from the first place where one succeeds. -/
theorem find?_append
    (fails : ∀ before behind, front = before ++ behind → behind ≠ [] →
      pattern.attempt before.getLast? (behind ++ rest) = none)
    (found : pattern.attempt front.getLast? rest = some captures) :
    pattern.find? (front ++ rest) = some captures := by
  simp only [← lastBefore_none] at fails found
  rw [Pattern.find?, Pattern.chart_eq_tabulate]
  exact Chart.findSome?_tabulate_append fails found

/-- A pattern that can be read from the beginning is found there. -/
theorem find?_of_attempt (found : pattern.attempt none text = some captures) :
    pattern.find? text = some captures := by
  have start : ∀ before behind : List Char, [] = before ++ behind → behind ≠ [] →
      pattern.attempt before.getLast? (behind ++ text) = none := fun before behind none some =>
    absurd (List.append_eq_nil_iff.mp none.symm).2 some
  exact find?_append start found

end Pattern

end Enquiry
