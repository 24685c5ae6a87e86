import Enquiry.Tool.Lines

/-!
# Inputs bit by bit

An input from which a tool takes as much as it wants. Blocks are read when they are needed; what is
left of the last one is kept.
-/

namespace Enquiry.Tool

open Host

/-- An input, with what has been read of it and not been used. -/
structure Inlet where
  descriptor : Nat
  rest : Octets
  finished : Bool

/-- What is done when an input cannot be read. -/
abbrev Trouble := Errno → Tool Unit

namespace Inlet

def ofDescriptor (descriptor : Nat) : Inlet := ⟨descriptor, [], false⟩

/-- Reads another block. -/
def extend (trouble : Trouble) (i : Inlet) : Tool Inlet := do
  match ← Program.call (.read i.descriptor blockSize false) with
  | .ok [] => return { i with finished := true }
  | .ok data => return { i with rest := if i.rest.isEmpty then data else i.rest ++ data }
  | .error e =>
      trouble e
      return { i with finished := true }

/-- Reads a block if nothing is left of the last one. -/
def filled (trouble : Trouble) (i : Inlet) : Tool Inlet := do
  if i.rest.isEmpty && !i.finished then i.extend trouble else return i

/-- Reads on until a test of what is there holds. The first argument bounds the number of
blocks. -/
def filledUntil (test : Octets → Bool) (trouble : Trouble) : Nat → Inlet → Tool Inlet
  | 0, i => return i
  | n + 1, i => do
      if i.finished || test i.rest then return i
      filledUntil test trouble n (← i.extend trouble)

/-- The next line, which ends at a mark. -/
def line? (mark : Char) (trouble : Trouble) (i : Inlet) : Tool (Option Line × Inlet) := do
  let i ← i.filledUntil (·.contains mark) trouble Program.maxReads
  let text := i.rest.takeWhile (· != mark)
  match i.rest.drop text.length with
  | _ :: rest => return (some ⟨text, true⟩, { i with rest })
  | [] =>
      if text.isEmpty then return (none, i)
      return (some ⟨text, false⟩, { i with rest := [] })

/-- Gives back what has not been used, if the input is one that can be read again. -/
def giveBack (i : Inlet) : Tool Unit := unread i.descriptor i.rest.length

end Inlet

end Enquiry.Tool
