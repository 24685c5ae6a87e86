import Enquiry.Text.Blank
import Enquiry.Text.Word

/-!
# Patterns of questions

A pattern is a sequence of pieces: fixed words, runs of characters of one class, choices between
words. Some pieces keep the text they stood for in a `Slot`.

`Pattern.Spells` says which texts a pattern stands for, given the characters around them. A text
may be read in many ways; the reading that counts is the first one, where the pieces decide from
left to right and each has an order of preference: a run of `Extent.longest` prefers more
characters, one of `Extent.shortest` fewer, a choice prefers its earlier words, and an optional
character prefers to be there.

`Pattern.find?` gives the captures of that reading at the leftmost place where the pattern occurs.
It fills a `Chart` from the last piece back to the first: one entry for each place of the text,
with the captures of the rest of the pattern from there on. So its work is the length of the text
times the length of the pattern, however many readings fail.
-/

namespace Enquiry

open Text

/-- What a captured part of a question stands for. -/
inductive Slot where
  | count | dimension | metric | unit | operation | context | condition | entity | field
  deriving DecidableEq, Repr

/-- The classes of characters that runs are made of. -/
inductive CharClass where
  /-- Blanks. -/
  | blank
  /-- Decimal digits of any script. -/
  | digit
  /-- Everything but the line feed. -/
  | inline
  deriving DecidableEq, Repr

def CharClass.holds : CharClass → Char → Bool
  | .blank, c => isBlank c
  | .digit, c => isDigit c
  | .inline, c => c != '\n'

/-- How far a run prefers to go. -/
inductive Extent where
  | shortest | longest
  deriving DecidableEq, Repr

inductive Piece where
  /-- Exactly these characters. -/
  | word (w : List Char)
  /-- One or more characters of a class, kept when a slot is given. -/
  | run (cls : CharClass) (extent : Extent) (slot : Option Slot)
  /-- One of some words, kept. -/
  | choice (slot : Slot) (ws : List (List Char))
  /-- The character, or nothing. -/
  | optional (c : Char)
  /-- A word boundary. -/
  | edge
  /-- The end of the text. -/
  | finish
  deriving DecidableEq, Repr

abbrev Pattern := List Piece

/-- What the pieces with a slot stood for, in their order. -/
abbrev Captures := List (Slot × List Char)

/-- The part kept in a slot. -/
def Captures.get? (captures : Captures) (slot : Slot) : Option (List Char) :=
  List.lookup slot captures

/-! ### The language of a pattern -/

/-- The last character before a place, when `text` has just been read after `before`. -/
def lastBefore (before : Option Char) (text : List Char) : Option Char :=
  text.getLast?.or before

/-- A piece stands for `text`, which has `before` in front of it and `rest` behind it. -/
inductive Piece.Spells (before : Option Char) (rest : List Char) : Piece → List Char → Prop
  | word (w : List Char) : Spells before rest (.word w) w
  | run {cls : CharClass} {extent : Extent} {slot : Option Slot} {text : List Char}
      (nonempty : text ≠ []) (holds : ∀ c ∈ text, cls.holds c = true) :
      Spells before rest (.run cls extent slot) text
  | choice {slot : Slot} {ws : List (List Char)} {w : List Char} (mem : w ∈ ws) :
      Spells before rest (.choice slot ws) w
  | present (c : Char) : Spells before rest (.optional c) [c]
  | absent (c : Char) : Spells before rest (.optional c) []
  | edge (boundary : isBoundary before rest.head? = true) : Spells before rest .edge []
  | finish (done : rest = []) : Spells before rest .finish []

/-- A pattern stands for `text`, which has `before` in front of it and `rest` behind it. -/
inductive Pattern.Spells : Pattern → Option Char → List Char → List Char → Prop
  | nil (before : Option Char) (rest : List Char) : Spells [] before [] rest
  | cons {piece : Piece} {pieces : Pattern} {before : Option Char} {first second rest : List Char}
      (head : piece.Spells before (second ++ rest) first)
      (tail : Spells pieces (lastBefore before first) second rest) :
      Spells (piece :: pieces) before (first ++ second) rest

/-! ### The preferred reading -/

/-- One entry for each place of a text: before its first character, before its second, and so on
to its end. -/
abbrev Chart (α : Type) := List (Option α)

/-- The entry of the first place. -/
def Chart.here? (chart : Chart α) : Option α := chart.head?.join

/-- The entry of the place `n` characters on. -/
def Chart.ahead? (chart : Chart α) (n : Nat) : Option α := Chart.here? (chart.drop n)

/-- Fills a chart from the end of the text to its beginning. An entry may depend on the character
before its place, the text after it, the chart `next` from that place on, and the entries already
filled. -/
def Chart.fill (entry : Option Char → List Char → Chart α → Chart β → Option β) :
    Option Char → List Char → Chart α → Chart β
  | before, [], next => [entry before [] next []]
  | before, c :: cs, next =>
      let later := Chart.fill entry (some c) cs (next.drop 1)
      entry before (c :: cs) next later :: later

/-- Keeps a text in a slot, if there is one. -/
def keep (slot : Option Slot) (text : List Char) (captures : Captures) : Captures :=
  match slot with
  | none => captures
  | some s => (s, text) :: captures

/-- The run from a place on, and the captures after it: it goes on as `later` says, or ends after
one character. -/
def runEntry (cls : CharClass) (extent : Extent) (_before : Option Char) (text : List Char)
    (next : Chart Captures) (later : Chart (List Char × Captures)) :
    Option (List Char × Captures) :=
  match text with
  | [] => none
  | c :: _ =>
      if cls.holds c then
        let stop := (next.ahead? 1).map fun captures => ([c], captures)
        let onward := later.here?.map fun (taken, captures) => (c :: taken, captures)
        match extent with
        | .shortest => stop.or onward
        | .longest => onward.or stop
      else none

/-- The captures when a word stands at a place. -/
def wordEntry (w : List Char) (text : List Char) (next : Chart Captures) : Option Captures :=
  if w.isPrefixOf text then next.ahead? w.length else none

/-- The captures of a piece and what follows it, from every place of a text, when `next` is the
chart of what follows. -/
def Piece.chart (piece : Piece) (before : Option Char) (text : List Char)
    (next : Chart Captures) : Chart Captures :=
  match piece with
  | .word w => Chart.fill (fun _ text next _ => wordEntry w text next) before text next
  | .run cls extent slot =>
      (Chart.fill (runEntry cls extent) before text next).map
        (Option.map fun (taken, captures) => keep slot taken captures)
  | .choice slot ws =>
      Chart.fill
        (fun _ text next _ =>
          ws.findSome? fun w => (wordEntry w text next).map (keep (some slot) w))
        before text next
  | .optional c =>
      Chart.fill (fun _ text next _ => (wordEntry [c] text next).or next.here?) before text next
  | .edge =>
      Chart.fill
        (fun before text next _ => if isBoundary before text.head? then next.here? else none)
        before text next
  | .finish =>
      Chart.fill (fun _ text next _ => if text.isEmpty then next.here? else none) before text next

/-- The captures of a pattern from every place of a text. -/
def Pattern.chart (pattern : Pattern) (before : Option Char) (text : List Char) :
    Chart Captures :=
  match pattern with
  | [] => List.replicate (text.length + 1) (some [])
  | piece :: pieces => piece.chart before text (Pattern.chart pieces before text)

/-- The captures of the preferred reading at the leftmost place where the pattern occurs. -/
def Pattern.find? (pattern : Pattern) (text : List Char) : Option Captures :=
  (pattern.chart none text).findSome? id

end Enquiry
