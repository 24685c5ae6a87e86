import Enquiry.Pattern

/-!
# Patterns read by backtracking

`Pattern.attempt` reads a pattern from one place of a text, piece by piece: each piece tries its
choices in the order of its preference, and takes the first after which the rest of the pattern
can be read.  This is what the order of preference means; it may try a choice again and again.

**The chart holds the attempts** (`Pattern.chart_eq_tabulate`): the entry of `Pattern.chart` at a
place is the attempt from that place.  So `Pattern.find?` fails exactly when the attempt from
every place fails (`Pattern.find?_eq_none_iff`), and what it finds is the attempt from some place
(`Pattern.exists_attempt_of_find?`).
-/

namespace Enquiry

open Text

/-- An attempt to read at a place, which has a character in front of it and a text behind it. -/
abbrev Attempt (α : Type) := Option Char → List Char → Option α

variable {α β : Type}

/-! ### Places -/

@[simp] theorem lastBefore_nil (before : Option Char) : lastBefore before [] = before := rfl

@[simp] theorem lastBefore_cons (before : Option Char) (c : Char) (cs : List Char) :
    lastBefore before (c :: cs) = lastBefore (some c) cs := by
  cases h : cs.getLast? <;> simp [lastBefore, List.getLast?_cons, h]

theorem lastBefore_none (text : List Char) : lastBefore none text = text.getLast? :=
  Option.or_none

/-! ### The attempts from every place -/

/-- The chart of the attempts from every place of a text. -/
def Chart.tabulate (attempt : Attempt α) : Option Char → List Char → Chart α
  | before, [] => [attempt before []]
  | before, c :: cs => attempt before (c :: cs) :: tabulate attempt (some c) cs

namespace Chart

@[simp] theorem here?_tabulate (attempt : Attempt α) (before : Option Char) (text : List Char) :
    (tabulate attempt before text).here? = attempt before text := by
  cases text <;> simp [tabulate, here?]

@[simp] theorem drop_one_tabulate (attempt : Attempt α) (before : Option Char) (c : Char)
    (cs : List Char) :
    (tabulate attempt before (c :: cs)).drop 1 = tabulate attempt (some c) cs := rfl

theorem ahead?_tabulate (attempt : Attempt α) (before : Option Char) (first rest : List Char) :
    (tabulate attempt before (first ++ rest)).ahead? first.length =
      attempt (lastBefore before first) rest := by
  induction first generalizing before with
  | nil => simp [ahead?]
  | cons c cs ih => simpa [ahead?, tabulate] using ih (some c)

theorem map_tabulate (f : α → β) (attempt : Attempt α) (before : Option Char)
    (text : List Char) :
    (tabulate attempt before text).map (Option.map f) =
      tabulate (fun before text => (attempt before text).map f) before text := by
  induction text generalizing before with
  | nil => rfl
  | cons c cs ih => simp [tabulate, ih]

/-- A chart is filled with the attempts, when each entry is the attempt from its place as far as
the charts it depends on hold attempts. -/
theorem fill_eq_tabulate {entry : Option Char → List Char → Chart α → Chart β → Option β}
    {next : Attempt α} {attempt : Attempt β}
    (h : ∀ before text, entry before text (tabulate next before text)
      ((tabulate attempt before text).drop 1) = attempt before text)
    (before : Option Char) (text : List Char) :
    fill entry before text (tabulate next before text) = tabulate attempt before text := by
  induction text generalizing before with
  | nil => exact congrArg (fun x => [x]) (h before [])
  | cons c cs ih =>
      have later := ih (some c)
      have here := h before (c :: cs)
      rw [drop_one_tabulate] at here
      rw [fill, drop_one_tabulate, later, here, tabulate]

theorem findSome?_tabulate_eq_none_iff {attempt : Attempt α} {before : Option Char}
    {text : List Char} :
    (tabulate attempt before text).findSome? id = none ↔
      ∀ front rest, text = front ++ rest → attempt (lastBefore before front) rest = none := by
  induction text generalizing before with
  | nil => simp [tabulate]
  | cons c cs ih =>
      simp only [tabulate, List.findSome?_eq_none_iff, List.forall_mem_cons, id] at ih ⊢
      rw [ih]
      constructor
      · rintro ⟨here, later⟩ front rest e
        cases front with
        | nil =>
            obtain rfl : c :: cs = rest := e
            exact here
        | cons d front =>
            obtain ⟨rfl, rfl⟩ := List.cons_eq_cons.mp e
            simpa using later front rest rfl
      · intro all
        exact ⟨all [] _ rfl, fun front rest e => by simpa using all (c :: front) rest (by simp [e])⟩

theorem exists_of_findSome?_tabulate {attempt : Attempt α} {before : Option Char}
    {text : List Char} {a : α} (h : (tabulate attempt before text).findSome? id = some a) :
    ∃ front rest, text = front ++ rest ∧ attempt (lastBefore before front) rest = some a := by
  induction text generalizing before with
  | nil => exact ⟨[], [], rfl, by simpa [tabulate] using h⟩
  | cons c cs ih =>
      rw [tabulate, List.findSome?_cons] at h
      cases here : attempt before (c :: cs) with
      | some b => exact ⟨[], c :: cs, rfl, by simpa [here] using h⟩
      | none =>
          obtain ⟨front, rest, rfl, later⟩ := ih (by simpa [here] using h)
          exact ⟨c :: front, rest, rfl, by simpa using later⟩

end Chart

/-! ### Reading piece by piece -/

/-- Reads a word, and what follows it. -/
def attemptWord (w : List Char) (next : Attempt α) : Attempt α := fun before text =>
  if w.isPrefixOf text then next (lastBefore before w) (text.drop w.length) else none

/-- Reads a run, and what follows it: after each character of the class the run may stop or go
on, as its extent prefers. -/
def attemptRun (cls : CharClass) (extent : Extent) (next : Attempt Captures) :
    Attempt (List Char × Captures)
  | _, [] => none
  | _, c :: cs =>
      if cls.holds c then
        let stop := (next (some c) cs).map fun captures => ([c], captures)
        let onward := (attemptRun cls extent next (some c) cs).map fun (taken, captures) =>
          (c :: taken, captures)
        match extent with
        | .shortest => stop.or onward
        | .longest => onward.or stop
      else none

/-- Reads a piece, and what follows it. -/
def Piece.attempt (piece : Piece) (next : Attempt Captures) : Attempt Captures :=
  fun before text =>
    match piece with
    | .word w => attemptWord w next before text
    | .run cls extent slot =>
        (attemptRun cls extent next before text).map fun (taken, captures) =>
          keep slot taken captures
    | .choice slot ws =>
        ws.findSome? fun w => (attemptWord w next before text).map (keep (some slot) w)
    | .optional c => (attemptWord [c] next before text).or (next before text)
    | .edge => if isBoundary before text.head? then next before text else none
    | .finish => if text.isEmpty then next before text else none

/-- Reads a pattern. -/
def Pattern.attempt : Pattern → Attempt Captures
  | [] => fun _ _ => some []
  | piece :: pieces => piece.attempt (attempt pieces)

theorem wordEntry_tabulate (w : List Char) (next : Attempt Captures) (before : Option Char)
    (text : List Char) :
    wordEntry w text (Chart.tabulate next before text) = attemptWord w next before text := by
  unfold wordEntry attemptWord
  split
  next h =>
      obtain ⟨rest, rfl⟩ := List.isPrefixOf_iff_prefix.mp h
      simp [Chart.ahead?_tabulate]
  next => rfl

theorem runEntry_tabulate (cls : CharClass) (extent : Extent) (next : Attempt Captures)
    (before : Option Char) (text : List Char) :
    runEntry cls extent before text (Chart.tabulate next before text)
        ((Chart.tabulate (attemptRun cls extent next) before text).drop 1) =
      attemptRun cls extent next before text := by
  cases text with
  | nil => rfl
  | cons c cs =>
      have one := Chart.ahead?_tabulate next before [c] cs
      simp only [List.singleton_append, List.length_singleton, lastBefore_cons, lastBefore_nil]
        at one
      cases extent <;>
        simp only [runEntry, attemptRun, Chart.drop_one_tabulate, Chart.here?_tabulate, one]

/-- A piece fills its chart with its attempts, when the chart of what follows holds attempts. -/
theorem Piece.chart_tabulate (piece : Piece) (next : Attempt Captures) (before : Option Char)
    (text : List Char) :
    piece.chart before text (Chart.tabulate next before text) =
      Chart.tabulate (piece.attempt next) before text := by
  cases piece with
  | word w => exact Chart.fill_eq_tabulate (fun _ _ => wordEntry_tabulate w next _ _) _ _
  | run cls extent slot =>
      rw [Piece.chart, Chart.fill_eq_tabulate (runEntry_tabulate cls extent next),
        Chart.map_tabulate]
      rfl
  | choice slot ws =>
      refine Chart.fill_eq_tabulate (fun before text => ?_) before text
      simp only [wordEntry_tabulate, Piece.attempt]
  | optional c =>
      refine Chart.fill_eq_tabulate (fun before text => ?_) before text
      simp only [wordEntry_tabulate, Chart.here?_tabulate, Piece.attempt]
  | edge =>
      refine Chart.fill_eq_tabulate (fun before text => ?_) before text
      simp only [Chart.here?_tabulate, Piece.attempt]
  | finish =>
      refine Chart.fill_eq_tabulate (fun before text => ?_) before text
      simp only [Chart.here?_tabulate, Piece.attempt]

/-- **The chart holds the attempts.**  The entry of a place is the attempt from there. -/
theorem Pattern.chart_eq_tabulate (pattern : Pattern) (before : Option Char)
    (text : List Char) :
    pattern.chart before text = Chart.tabulate pattern.attempt before text := by
  induction pattern with
  | nil =>
      rw [Pattern.chart]
      induction text generalizing before with
      | nil => rfl
      | cons c cs ih => rw [List.length_cons, List.replicate_succ, ih (some c)]; rfl
  | cons piece pieces ih => rw [Pattern.chart, ih, Piece.chart_tabulate]; rfl

/-- A pattern is found nowhere exactly when the attempt from every place fails. -/
theorem Pattern.find?_eq_none_iff {pattern : Pattern} {text : List Char} :
    pattern.find? text = none ↔
      ∀ front rest, text = front ++ rest → pattern.attempt front.getLast? rest = none := by
  rw [Pattern.find?, Pattern.chart_eq_tabulate, Chart.findSome?_tabulate_eq_none_iff]
  simp only [lastBefore_none]

/-- What is found is the attempt from some place. -/
theorem Pattern.exists_attempt_of_find? {pattern : Pattern} {text : List Char}
    {captures : Captures} (h : pattern.find? text = some captures) :
    ∃ front rest, text = front ++ rest ∧ pattern.attempt front.getLast? rest = some captures := by
  rw [Pattern.find?, Pattern.chart_eq_tabulate] at h
  simpa only [lastBefore_none] using Chart.exists_of_findSome?_tabulate h

end Enquiry
