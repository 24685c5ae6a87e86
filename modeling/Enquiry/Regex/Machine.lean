import Enquiry.Regex.Basic

/-!
# Finding regular expressions

An expression becomes a list of instructions. A text is read once, from left to right, while a row
of threads waits in the instructions; of two threads at the same instruction the first one is kept.
What is found begins as far to the left as possible and then is as long as possible; of several
ways to stand for the same text the first one counts.
-/

namespace Enquiry.Regex

/-- One step of a thread. -/
inductive Instruction where
  /-- Goes on behind a character. -/
  | single (s : Single)
  | anchor (a : Anchor)
  /-- Goes on at two places, of which the first one is preferred. -/
  | split (first second : Nat)
  | jump (target : Nat)
  /-- Takes note of a place: the beginning or the end of a part. -/
  | note (slot : Nat)
  | done
  deriving DecidableEq, Repr

/-- The instructions of something so many times, one behind another. -/
def copies (one : Nat → List Instruction) : Nat → Nat → List Instruction
  | 0, _ => []
  | n + 1, start =>
      let first := one start
      first ++ copies one n (start + first.length)

/-- The instructions of something that may be left out, so many times. -/
def optionals (one : Nat → List Instruction) : Nat → Nat → List Instruction
  | 0, _ => []
  | n + 1, start =>
      let first := one (start + 1)
      let others := optionals one n (start + 1 + first.length)
      .split (start + 1) (start + 1 + first.length + others.length) :: first ++ others

/-- The instructions of an expression that stand at some place. -/
def Node.compile : Node → Nat → List Instruction
  | empty, _ => []
  | single s, _ => [.single s]
  | anchor a, _ => [.anchor a]
  | pair a b, start =>
      let first := a.compile start
      first ++ b.compile (start + first.length)
  | either a b, start =>
      let first := a.compile (start + 1)
      let second := b.compile (start + 2 + first.length)
      .split (start + 1) (start + 2 + first.length) :: first ++
        .jump (start + 2 + first.length + second.length) :: second
  | repeated n least most, start =>
      let fixed := copies n.compile least start
      let start := start + fixed.length
      match most with
      | some most => fixed ++ optionals n.compile (most - least) start
      | none =>
          let body := n.compile (start + 1)
          fixed ++ .split (start + 1) (start + 2 + body.length) :: body ++ [.jump start]
  | group k n, start =>
      .note (2 * k) :: n.compile (start + 1) ++ [.note (2 * k + 1)]
  | again _, _ => []

/-- A thread: where it is, where it has begun, and the places that it has taken note of, the latest
first. -/
structure Thread where
  place : Nat
  start : Nat
  notes : List (Nat × Nat)

/-- The parts that some notes tell of. -/
def partsOf (groups : Nat) (notes : List (Nat × Nat)) : List (Nat × Nat × Nat) :=
  (List.range groups).filterMap fun i =>
    match notes.lookup (2 * (i + 1)), notes.lookup (2 * (i + 1) + 1) with
    | some a, some b => if a ≤ b then some (i + 1, a, b) else none
    | _, _ => none

/-- The instructions of an expression. -/
structure Machine where
  mode : Mode
  code : Array Instruction
  groups : Nat

def Machine.ofNode (mode : Mode) (n : Node) : Machine :=
  ⟨mode, (n.compile 0 ++ [Instruction.done]).toArray, n.groups⟩

/-- A row of threads at one place of a text: those that wait for a character, the last one first;
the instructions that have been seen, by the number of their round; and the threads that are at
their end, the last one first. -/
structure Row where
  waiting : List Thread
  seen : Array Nat
  ended : List Thread

namespace Machine

/-- Lets some threads go on as far as they can without a character. The first argument bounds the
number of steps. -/
def settle (m : Machine) (before after : Option Char) (position round : Nat) :
    Nat → List Thread → Row → Row
  | 0, _, row => row
  | _, [], row => row
  | n + 1, t :: rest, row =>
      if row.seen[t.place]? == some round then settle m before after position round n rest row
      else
        let row := { row with seen := row.seen.setIfInBounds t.place round }
        let next := t.place + 1
        match m.code[t.place]? with
        | none => settle m before after position round n rest row
        | some (.single _) =>
            settle m before after position round n rest { row with waiting := t :: row.waiting }
        | some .done =>
            settle m before after position round n rest { row with ended := t :: row.ended }
        | some (.anchor a) =>
            if a.holds m.mode before after then
              settle m before after position round n ({ t with place := next } :: rest) row
            else settle m before after position round n rest row
        | some (.split first second) =>
            settle m before after position round n
              ({ t with place := first } :: { t with place := second } :: rest) row
        | some (.jump target) =>
            settle m before after position round n ({ t with place := target } :: rest) row
        | some (.note slot) =>
            settle m before after position round n
              ({ t with place := next, notes := (slot, position) :: t.notes } :: rest) row

/-- The threads behind a character, in their order. -/
def step (m : Machine) (c : Char) (waiting : List Thread) : List Thread :=
  waiting.filterMap fun (t : Thread) =>
    match m.code[t.place]? with
    | some (.single s) => if s.holds m.mode c then some { t with place := t.place + 1 } else none
    | _ => none

/-- The better of what has been found and the threads at their end, which stand in the order of
preference. -/
def better (groups : Nat) (position : Nat) (best : Option Match) (ended : List Thread) :
    Option Match :=
  match ended.head?, best with
  | none, best => best
  | some t, none => some ⟨t.start, position, partsOf groups t.notes⟩
  | some t, some b =>
      if t.start ≤ b.start then some ⟨t.start, position, partsOf groups t.notes⟩ else some b

/-- Reads on in a text, with some threads in front of a character. -/
def run (m : Machine) :
    Option Char → Nat → List Char → List Thread → Array Nat → Option Match → Option Match
  | before, position, text, threads, seen, best =>
      let after := text.head?
      let threads := match best with
        | some b => threads.filter fun t => t.start ≤ b.start
        | none => threads ++ [⟨0, position, []⟩]
      let row := m.settle before after position (position + 1) (4 * m.code.size + threads.length + 4)
        threads ⟨[], seen, []⟩
      let best := better m.groups position best row.ended.reverse
      match text with
      | [] => best
      | c :: rest =>
          if row.waiting.isEmpty && best.isSome then best
          else run m (some c) (position + 1) rest (m.step c row.waiting.reverse) row.seen best
termination_by _ _ text => text.length

/-- The first place where an expression stands, in a text behind some character, whose first
character has some number. -/
def find? (m : Machine) (before : Option Char) (position : Nat) (text : List Char) :
    Option Match :=
  m.run before position text [] (Array.replicate m.code.size 0) none

end Machine

end Enquiry.Regex
