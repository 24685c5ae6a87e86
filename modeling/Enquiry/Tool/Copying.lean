import Enquiry.Tool.Lines
import Enquiry.Text.Layout

/-!
# Copying inputs

Tools that write what they read: as it is, with numbers or visible characters, backwards, or to
several places at once.
-/

namespace Enquiry.Tool

open Host Text

/-! ### cat -/

/-- How lines are shown. -/
structure Showing where
  numbers : Bool
  numbersFilled : Bool
  squeezes : Bool
  ends : Bool
  tabs : Bool
  hidden : Bool

namespace Showing

def ofFlags (flags : List Flag) : Showing :=
  let any (letters : String) := letters.toList.any (has flags)
  ⟨has flags 'n' && !has flags 'b', has flags 'b', has flags 's', any "AeE", any "AtT", any "Aetv"⟩

def isPlain (s : Showing) : Bool :=
  !(s.numbers || s.numbersFilled || s.squeezes || s.ends || s.tabs || s.hidden)

/-- A character as it is shown. -/
def char (s : Showing) (c : Char) : Octets :=
  let n := c.toNat
  if c = '\t' then if s.tabs then "^I".toList else [c]
  else if !s.hidden then [c]
  else
    let (front, n) := if 128 ≤ n then ("M-".toList, n - 128) else ([], n)
    if n < 32 then front ++ ['^', Char.ofNat (n + 64)]
    else if n = 127 then front ++ "^?".toList
    else front ++ [Char.ofNat n]

end Showing

/-- Where `cat` is: the number of the last line, whether it was empty, and whether it has not ended
yet. -/
structure CatState where
  number : Nat
  afterEmpty : Bool
  inLine : Bool

def Showing.line (s : Showing) (c : CatState) (l : Line) : Turn CatState :=
  let empty := l.text.isEmpty && !c.inLine
  if s.squeezes && empty && c.afterEmpty then ⟨c, [], false⟩
  else
    let numbered := !c.inLine && (s.numbers || (s.numbersFilled && !empty))
    let n := if numbered then c.number + 1 else c.number
    let front := if numbered then { Layout.plain with width := 6 }.integer n ++ ['\t'] else []
    let behind := if l.ended then (if s.ends then ['$'] else []) ++ ['\n'] else []
    ⟨⟨n, empty, !l.ended⟩, front ++ l.text.flatMap s.char ++ behind, false⟩

/-- Copies the blocks of an input. The first argument bounds their number. -/
def copyBlocks (name : Octets) (descriptor : Nat) : Nat → Tool Unit
  | 0 => return ()
  | n + 1 => do
      match ← readBlock 1 name descriptor blockSize with
      | [] => return ()
      | data =>
          print data
          flush
          copyBlocks name descriptor n

/-- Copies some inputs. -/
def copyAll : List Octets → Tool Unit
  | [] => return ()
  | name :: rest => do
      match ← openInput plainRefusal 1 name with
      | some descriptor =>
          copyBlocks name descriptor Program.maxReads
          closeInput descriptor
      | none => pure ()
      copyAll rest

def catWords : List (String × Char) :=
  [("number", 'n'), ("number-nonblank", 'b'), ("squeeze-blank", 's'), ("show-all", 'A'),
    ("show-ends", 'E'), ("show-tabs", 'T'), ("show-nonprinting", 'v')]

def cat (args : List Octets) : Tool Unit := do
  let (flags, names) ← readFlags (.of "nbsAeEtTvu" catWords) args
  let showing := Showing.ofFlags flags
  if showing.isPlain then copyAll (orInput names)
  else
    let _ ← filterInputs plainRefusal 1 showing.line (orInput names) ⟨0, false, false⟩

/-! ### Backwards -/

def tac (args : List Octets) : Tool Unit := do
  let (_, names) ← readFlags (.of "b" []) args
  let refusal : Refusal := fun name e =>
    "failed to open ".toList ++ quoted name ++ " for reading: ".toList ++ wording e
  for name in orInput names do
    match ← readInput refusal 1 name with
    | some text => print ((linesOf text).reverse.map Line.whole).flatten
    | none => pure ()

def rev (args : List Octets) : Tool Unit := do
  let (_, names) ← readFlags (.of "" []) args
  mapLines List.reverse names

/-! ### Several outputs -/

/-- Opens some files for writing. -/
def openOutputs (mode : OpenMode) : List Octets → Tool (List Nat)
  | [] => return []
  | name :: rest => do
      let found ← match ← Program.call (.opening name mode 0o666) with
        | .ok descriptor => pure [descriptor]
        | .error e => do
            warnAnd 1 (plainRefusal name e)
            pure []
      return found ++ (← openOutputs mode rest)

/-- Copies the first input to some descriptors. The first argument bounds the number of blocks. -/
def copyTo (targets : List Nat) : Nat → Tool Unit
  | 0 => return ()
  | n + 1 => do
      match ← readBlock 1 ['-'] 0 blockSize with
      | [] => return ()
      | data =>
          print data
          flush
          for target in targets do
            let _ ← Program.writeAll target data
          copyTo targets n

def tee (args : List Octets) : Tool Unit := do
  let (flags, names) ← readFlags (.of "aip" [("append", 'a'), ("ignore-interrupts", 'i')]) args
  let targets ← openOutputs (if has flags 'a' then .appending else .writing) names
  copyTo targets Program.maxReads

/-! ### Without an input -/

/-- Writes the same again and again. The first argument bounds how often. -/
def again (text : Octets) : Nat → Tool Unit
  | 0 => return ()
  | n + 1 => do
      print text
      flush
      again text n

def yes (args : List Octets) : Tool Unit := do
  let (_, args) ← readFlags { Known.of "" [] with strict := true } args
  let line := List.intercalate [' '] (if args.isEmpty then [['y']] else args) ++ ['\n']
  let copies := 8192 / line.length + 1
  again (List.replicate copies line).flatten 1000000000

end Enquiry.Tool
