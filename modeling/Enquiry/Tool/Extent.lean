import Enquiry.Tool.Lines

/-!
# The ends of inputs

`head` writes the front of its inputs and `tail` their end, counted in lines or bytes.
-/

namespace Enquiry.Tool

open Host Text

/-- The factors that letters behind a number stand for. -/
def factors : List (String × Nat) :=
  [("", 1), ("b", 512), ("kB", 1000), ("k", 1024), ("K", 1024), ("KiB", 1024), ("MB", 1000000),
    ("M", 1048576), ("MiB", 1048576), ("GB", 1000000000), ("G", 1073741824), ("GiB", 1073741824)]

/-- The number that a text with such letters is. -/
def amount? (text : Octets) : Option Nat :=
  let digits := text.takeWhile isAsciiDigit
  (number? digits).bind fun n =>
    (factors.lookup (textOf (text.drop digits.length))).map (n * ·)

/-- What is wanted of an input. -/
structure Wanted where
  /-- Bytes are counted, not lines. -/
  bytes : Bool
  count : Nat
  /-- A minus sign stood in front of the number, or a plus sign. -/
  minus : Bool
  plus : Bool

/-- What an option wants. -/
def readWanted (bytes : Bool) (text : Octets) : Tool Wanted := do
  let (sign, digits) := match text with
    | '-' :: rest => (some '-', rest)
    | '+' :: rest => (some '+', rest)
    | text => (none, text)
  match amount? digits with
  | some n => return ⟨bytes, n, sign == some '-', sign == some '+'⟩
  | none =>
      fail 1 ("invalid number of ".toList ++ (if bytes then "bytes" else "lines").toList ++
        ": ".toList ++ quoted text)

/-- The option that the old way of writing a number stands for. -/
def oldNumber? (text : Octets) : Option (List Octets) :=
  let digits := text.takeWhile isAsciiDigit
  if digits.isEmpty then none
  else match text.drop digits.length with
    | [] => some [['-', 'n'], digits]
    | ['c'] => some [['-', 'c'], digits]
    | ['l'] => some [['-', 'n'], digits]
    | ['q'] => some [['-', 'q'], ['-', 'n'], digits]
    | ['v'] => some [['-', 'v'], ['-', 'n'], digits]
    | _ => none

/-- The line in front of an input. -/
def header (first : Bool) (name : Octets) : Octets :=
  let name := if name = ['-'] then "standard input".toList else name
  (if first then [] else ['\n']) ++ "==> ".toList ++ name ++ " <==\n".toList

def extentWords : List (String × Char) :=
  [("lines", 'n'), ("bytes", 'c'), ("quiet", 'q'), ("silent", 'q'), ("verbose", 'v'),
    ("zero-terminated", 'z'), ("follow", 'f')]

/-- The options of both tools: what is wanted, and whether the names of inputs are shown. -/
def readExtent (args : List Octets) : Tool (Wanted × Bool × List Flag × List Octets) := do
  let (flags, names) ← readFlags (.of "n:c:qvzfFs:" extentWords) args
  let wanted ← match (flags.filter fun (c, _) => c == 'n' || c == 'c').getLast? with
    | some (c, text) => readWanted (c == 'c') text
    | none => pure ⟨false, 10, false, false⟩
  let last := (flags.filter fun (c, _) => c == 'q' || c == 'v').getLast?.map Prod.fst
  let names := orInput names
  let headed := last == some 'v' || (last.isNone && 1 < names.length)
  return (wanted, headed, flags, names)

/-- How an input is refused that cannot be opened. -/
def openRefusal : Refusal := fun name e =>
  "cannot open ".toList ++ quoted name ++ " for reading: ".toList ++ wording e

/-! ### head -/

/-- The front of a block that holds so many lines, how many are missing, and the rest. -/
def takeLines : Nat → Octets → List Char → Octets × Nat × Octets
  | 0, text, found => (found.reverse, 0, text)
  | n, [], found => (found.reverse, n, [])
  | n + 1, c :: rest, found =>
      if c = '\n' then takeLines n rest (c :: found) else takeLines (n + 1) rest (c :: found)
termination_by _ text => text.length

/-- How much `head` reads at once. -/
def headBlock : Nat := 8192

/-- Writes the front of an input. The first argument bounds the number of blocks. -/
def writeFront (name : Octets) (descriptor : Nat) (bytes : Bool) : Nat → Nat → Tool Unit
  | 0, _ => return ()
  | _, 0 => return ()
  | n + 1, count => do
      let size := if bytes then min count headBlock else headBlock
      match ← readBlock 1 name descriptor size with
      | [] => return ()
      | data =>
          if bytes then
            print data
            writeFront name descriptor bytes n (count - data.length)
          else
            let (front, missing, rest) := takeLines count data []
            print front
            if missing = 0 then unread descriptor rest.length
            else writeFront name descriptor bytes n missing

/-- All of a text but its end. -/
def butEnd (w : Wanted) (text : Octets) : Octets :=
  if w.bytes then text.take (text.length - w.count)
  else
    let lines := linesOf text
    ((lines.take (lines.length - w.count)).map Line.whole).flatten

def headInputs (w : Wanted) (headed first : Bool) : List Octets → Tool Unit
  | [] => return ()
  | name :: rest => do
      match ← openInput openRefusal 1 name with
      | none => headInputs w headed first rest
      | some descriptor =>
          if headed then print (header first name)
          if w.minus then
            print (butEnd w (← readBlocks 1 name descriptor Program.maxReads []))
          else writeFront name descriptor w.bytes Program.maxReads w.count
          closeInput descriptor
          headInputs w headed false rest

def head (args : List Octets) : Tool Unit := do
  let args := match args with
    | ('-' :: text) :: rest =>
        match oldNumber? text with
        | some flags => flags ++ rest
        | none => args
    | args => args
  let (w, headed, _, names) ← readExtent args
  headInputs w headed true names

/-! ### tail -/

/-- The end of a text. -/
def endOf (w : Wanted) (text : Octets) : Octets :=
  if w.bytes then
    if w.plus then text.drop (w.count - 1) else text.drop (text.length - w.count)
  else
    let lines := linesOf text
    let kept := if w.plus then lines.drop (w.count - 1) else lines.drop (lines.length - w.count)
    (kept.map Line.whole).flatten

/-- How often a file that may grow is looked at, and how long one waits, in nanoseconds. -/
def maxLooks : Nat := 1000000

def lookTime : Nat := 1000000000

/-- Writes what is added to a file. The first argument bounds how often it is looked at. -/
def follow (name : Octets) (descriptor : Nat) : Nat → Tool Unit
  | 0 => return ()
  | n + 1 => do
      match ← readBlock 1 name descriptor blockSize with
      | [] =>
          flush
          let _ ← Program.call (.sleep lookTime)
          follow name descriptor n
      | data =>
          print data
          flush
          follow name descriptor n

def tailInputs (w : Wanted) (headed first : Bool) (follows : Bool) : List Octets → Tool Unit
  | [] => return ()
  | name :: rest => do
      match ← openInput openRefusal 1 name with
      | none => tailInputs w headed first follows rest
      | some descriptor =>
          if headed then print (header first name)
          print (endOf w (← readBlocks 1 name descriptor Program.maxReads []))
          if follows && rest.isEmpty && name != ['-'] then follow name descriptor maxLooks
          closeInput descriptor
          tailInputs w headed false follows rest

def tail (args : List Octets) : Tool Unit := do
  let args := match args with
    | ('-' :: text) :: rest =>
        match oldNumber? text with
        | some flags => flags ++ rest
        | none => args
    | ('+' :: text) :: rest =>
        if text.isEmpty || !text.all isAsciiDigit then args else ['-', 'n'] :: ('+' :: text) :: rest
    | args => args
  let (w, headed, flags, names) ← readExtent args
  tailInputs w headed true (has flags 'f' || has flags 'F') names

end Enquiry.Tool
