import Enquiry.Regex.Machine
import Enquiry.Regex.Reader
import Enquiry.Text.Search

/-!
# Searching with regular expressions

An expression that asks for a part again is found by trying one way after another; all others are
found in one pass over the text.
-/

namespace Enquiry.Regex

open Text

/-! ### Trying -/

/-- What is left to do when an expression is tried. -/
inductive Work where
  | node (n : Node)
  /-- A part that has begun at a place ends. -/
  | close (number start : Nat)
  /-- Something may stand once more, if it does not stand for nothing from a place on. -/
  | more (n : Node) (least : Nat) (most : Option Nat) (start : Nat)

/-- Where a trial is: the character in front of it, its place, what follows, and the parts so far
with their texts, the latest first. -/
structure Trial where
  before : Option Char
  position : Nat
  rest : List Char
  parts : List (Nat × Nat × Nat × List Char)

/-- The trial behind a character. -/
def Trial.ahead (t : Trial) (c : Char) (rest : List Char) : Trial :=
  { t with before := some c, position := t.position + 1, rest }

/-- The trial behind a text. -/
def Trial.skip (t : Trial) (text : List Char) (rest : List Char) : Trial :=
  { t with before := text.getLast?.or t.before, position := t.position + text.length, rest }

/-- Does what is left, one way after another, until one succeeds. The first argument bounds the
number of steps; what is left of it is part of the answer. `starts` holds the texts behind the
places where parts have begun. -/
def attempt (m : Mode) : Nat → List (Work × List Char) → Trial → Nat × Option Trial
  | 0, _, _ => (0, none)
  | n + 1, [], t => (n, some t)
  | n + 1, (w, from_) :: works, t =>
      match w with
      | .close k start =>
          let size := t.position - start
          attempt m n works { t with parts := (k, start, t.position, from_.take size) :: t.parts }
      | .more node least most start =>
          if least = 0 ∧ t.position = start then attempt m n works t
          else attempt m n ((.node (.repeated node least most), []) :: works) t
      | .node node =>
          match node with
          | .empty => attempt m n works t
          | .single s =>
              match t.rest with
              | [] => (n, none)
              | c :: rest => if s.holds m c then attempt m n works (t.ahead c rest) else (n, none)
          | .anchor a =>
              if a.holds m t.before t.rest.head? then attempt m n works t else (n, none)
          | .pair a b => attempt m n ((.node a, []) :: (.node b, []) :: works) t
          | .either a b =>
              match attempt m n ((.node a, []) :: works) t with
              | (_, some t) => (n, some t)
              | (left, none) => attempt m (min n left) ((.node b, []) :: works) t
          | .repeated node least most =>
              let once : List (Work × List Char) :=
                (.node node, []) ::
                  (.more node (least - 1) (most.map (· - 1)) t.position, []) :: works
              if most = some 0 then attempt m n works t
              else if 0 < least then attempt m n once t
              else match attempt m n once t with
                | (_, some t) => (n, some t)
                | (left, none) => attempt m (min n left) works t
          | .group k node =>
              attempt m n ((.node node, []) :: (.close k t.position, t.rest) :: works) t
          | .again k =>
              match t.parts.lookup k with
              | none => (n, none)
              | some (_, _, text) =>
                  let front := t.rest.take text.length
                  let same (a b : Char) : Bool := a == b || (m.folds && otherCase a == b)
                  if front.length = text.length ∧ (front.zip text).all fun (a, b) => same a b then
                    attempt m n works (t.skip front (t.rest.drop text.length))
                  else (n, none)
termination_by n => n
decreasing_by all_goals omega

/-- How many steps are tried at one place. -/
def maxSteps : Nat := 200000

/-- Tries an expression at one place after another. -/
def attemptFrom (m : Mode) (n : Node) : Option Char → Nat → List Char → Option Match
  | before, position, text =>
      match (attempt m maxSteps [(.node n, [])] ⟨before, position, text, []⟩).2 with
      | some t => some ⟨position, t.position, t.parts.map fun (k, a, b, _) => (k, a, b)⟩
      | none =>
          match text with
          | [] => none
          | c :: rest => attemptFrom m n (some c) (position + 1) rest
termination_by _ _ text => text.length

end Regex

/-- An expression that is ready to be found. -/
inductive Regex where
  | plain (machine : Regex.Machine)
  | recalling (mode : Regex.Mode) (node : Regex.Node)

namespace Regex

def ofNode (mode : Mode) (n : Node) : Regex :=
  if n.recalls then .recalling mode n else .plain (.ofNode mode n)

/-- The expression that a text is. -/
def ofText (d : Dialect) (mode : Mode) (text : List Char) : Except Fault Regex :=
  (read d text).map (ofNode mode)

/-- The number of parts. -/
def groups : Regex → Nat
  | .plain m => m.groups
  | .recalling _ n => n.groups

/-- The first place where the expression stands in a text behind some character; the first
character of the text has some number. -/
def find? (r : Regex) (before : Option Char) (position : Nat) (text : List Char) : Option Match :=
  match r with
  | .plain m => m.find? before position text
  | .recalling mode n => attemptFrom mode n before position text

/-- The first place where the expression stands in a text. -/
def search? (r : Regex) (text : List Char) : Option Match := r.find? none 0 text

/-- The expression stands somewhere in a text. -/
def occurs (r : Regex) (text : List Char) : Bool := (r.search? text).isSome

/-- The characters of a text from one place to another. -/
def slice (text : List Char) (start stop : Nat) : List Char := (text.drop start).take (stop - start)

/-- All places where the expression stands, one behind another: behind a text that has been found
nothing empty is found. -/
def allFrom (r : Regex) : Nat → Option Char → Nat → List Char → Bool → List Match
  | 0, _, _, _, _ => []
  | n + 1, before, position, text, afterMatch =>
      match r.find? before position text with
      | none => []
      | some m =>
          let skipped := m.stop - position
          if m.stop = m.start then
            let rest := text.drop skipped
            let found := if afterMatch && skipped = 0 then [] else [m]
            match rest with
            | [] => found
            | c :: rest => found ++ allFrom r n (some c) (m.stop + 1) rest false
          else
            let before := (text.take skipped).getLast?.or before
            m :: allFrom r n before m.stop (text.drop skipped) true

/-- All places where the expression stands in a text. -/
def all (r : Regex) (text : List Char) : List Match :=
  r.allFrom (2 * text.length + 2) none 0 text false

end Regex

end Enquiry
