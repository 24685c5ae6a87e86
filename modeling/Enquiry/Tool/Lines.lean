import Enquiry.Tool.Flags

/-!
# Lines of inputs

Reading files piece by piece or line by line. A filter is a function of a state and a line; it says
what is written, and whether more lines are wanted, so that nothing is read that is not needed.
-/

namespace Enquiry.Tool

open Host Text

/-- A line; the last one may have no end. -/
structure Line where
  text : Octets
  ended : Bool
  deriving DecidableEq, Repr

/-- The characters of a line with its end. -/
def Line.whole (l : Line) : Octets := if l.ended then l.text ++ ['\n'] else l.text

/-- What a filter makes of a line. -/
structure Turn (β : Type) where
  state : β
  output : Octets
  /-- No more lines are wanted. -/
  done : Bool

/-- How much is read at once. -/
def blockSize : Nat := 65536

/-! ### Inputs -/

/-- How the file at a path cannot be used. -/
abbrev Refusal := Octets → Errno → Octets

/-- The name and what is wrong with it. -/
def plainRefusal : Refusal := fun name e => shown name ++ ": ".toList ++ wording e

/-- Opens a file, or the first input for a dash. Nothing is there when that fails, about which is
complained. -/
def openInput (refusal : Refusal) (status : Nat) (name : Octets) : Tool (Option Nat) := do
  if name = ['-'] then return some 0
  match ← Program.call (.opening name .reading 0) with
  | .ok descriptor => return some descriptor
  | .error e =>
      warnAnd status (refusal name e)
      return none

def closeInput (descriptor : Nat) : Tool Unit := do
  if descriptor ≠ 0 then
    let _ ← Program.call (.close descriptor)

/-- Gives back as many bytes as have been read too far, if the input is one that can be read
again. -/
def unread (descriptor count : Nat) : Tool Unit := do
  if count ≠ 0 then
    match ← Program.call (.seek descriptor 0) with
    | .error _ => return ()
    | .ok place =>
        let _ ← Program.call (.seek descriptor (place - count))

/-- The next block of an input; nothing at its end, or when it cannot be read, about which is
complained. -/
def readBlock (status : Nat) (name : Octets) (descriptor size : Nat) : Tool Octets := do
  match ← Program.call (.read descriptor size false) with
  | .ok data => return data
  | .error e =>
      warnAnd status (plainRefusal name e)
      return []

/-- All blocks of an input. The first argument bounds their number. -/
def readBlocks (status : Nat) (name : Octets) (descriptor : Nat) :
    Nat → List Octets → Tool Octets
  | 0, found => return found.reverse.flatten
  | n + 1, found => do
      match ← readBlock status name descriptor blockSize with
      | [] => return found.reverse.flatten
      | data => readBlocks status name descriptor n (data :: found)

/-- All of an input; nothing when it is not there. -/
def readInput (refusal : Refusal) (status : Nat) (name : Octets) : Tool (Option Octets) := do
  match ← openInput refusal status name with
  | none => return none
  | some descriptor =>
      let data ← readBlocks status name descriptor Program.maxReads []
      closeInput descriptor
      return some data

/-- All of some inputs, one behind another. -/
def readInputs (refusal : Refusal) (status : Nat) : List Octets → Tool Octets
  | [] => return []
  | name :: rest => do
      let data ← readInput refusal status name
      return data.getD [] ++ (← readInputs refusal status rest)

/-- The names of inputs, or a dash when there are none. -/
def orInput (names : List Octets) : List Octets := if names.isEmpty then [['-']] else names

/-! ### Lines -/

/-- The lines of a text. -/
def linesOf (text : Octets) : List Line :=
  let parts := List.splitOn '\n' text
  let complete := parts.dropLast.map (⟨·, true⟩)
  match parts.getLast? with
  | some [] => complete
  | some rest => complete ++ [⟨rest, false⟩]
  | none => complete

/-- A filter that is under way: its state, what it has written, the latest first, and whether it is
done. -/
structure Filtering (β : Type) where
  state : β
  output : List Octets
  done : Bool

/-- The filter takes a line. -/
def Filtering.take {β : Type} (step : β → Line → Turn β) (f : Filtering β) (l : Line) :
    Filtering β :=
  if f.done then f
  else
    let t := step f.state l
    ⟨t.state, t.output :: f.output, t.done⟩

/-- Filters the lines of an input, of which some characters have been read already. The first
argument bounds the number of blocks. -/
def filterFrom {β : Type} (step : β → Line → Turn β) (status : Nat) (name : Octets)
    (descriptor : Nat) : Nat → List Octets → β → Tool (β × Bool)
  | 0, _, b => return (b, true)
  | n + 1, found, b => do
      match ← readBlock status name descriptor blockSize with
      | [] =>
          match found.reverse.flatten with
          | [] => return (b, false)
          | text =>
              let t := step b ⟨text, false⟩
              print t.output
              return (t.state, t.done)
      | data =>
          if !data.contains '\n' then
            filterFrom step status name descriptor n (data :: found) b
          else
            let text := if found.isEmpty then data else (data :: found).reverse.flatten
            let parts := List.splitOn '\n' text
            let f := (parts.dropLast.map (⟨·, true⟩)).foldl (Filtering.take step) ⟨b, [], false⟩
            print f.output.reverse.flatten
            if f.done then return (f.state, true)
            let rest := (parts.getLast?).getD []
            filterFrom step status name descriptor n (if rest.isEmpty then [] else [rest]) f.state

/-- Filters the lines of an input. The answer says whether the filter is done. -/
def filterInput {β : Type} (refusal : Refusal) (status : Nat) (step : β → Line → Turn β)
    (name : Octets) (b : β) : Tool (β × Bool) := do
  match ← openInput refusal status name with
  | none => return (b, false)
  | some descriptor =>
      let result ← filterFrom step status name descriptor Program.maxReads [] b
      closeInput descriptor
      return result

/-- Filters the lines of some inputs. -/
def filterInputs {β : Type} (refusal : Refusal) (status : Nat) (step : β → Line → Turn β) :
    List Octets → β → Tool β
  | [], b => return b
  | name :: rest, b => do
      let (b, done) ← filterInput refusal status step name b
      if done then return b else filterInputs refusal status step rest b

/-- Writes what a function makes of each line. -/
def mapLines (f : Octets → Octets) (names : List Octets) : Tool Unit :=
  filterInputs plainRefusal 1
    (fun (_ : Unit) l => ⟨(), ({ l with text := f l.text } : Line).whole, false⟩) (orInput names) ()

end Enquiry.Tool
