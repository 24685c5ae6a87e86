import Enquiry.Shell.Builtin.Basic
import Enquiry.Shell.Condition
import Enquiry.Shell.Format
import Enquiry.Shell.Jobs

/-!
# Built-in commands for text

Writing text, comparing it, and reading it into variables.
-/

namespace Enquiry.Shell.Builtin

open Host Text

def echo (args : List Octets) : Sh Nat := do
  Sh.print (if (← get).extended then richlyEchoed args else echoed args)
  return 0

/-- Complains one after another. -/
def warnAll : List Octets → Sh Unit
  | [] => return ()
  | text :: rest => do
      Sh.warn text
      warnAll rest

def printf (args : List Octets) : Sh Nat := do
  let (_, args) ← readFlags "" args
  match args with
  | [] => Sh.fault "usage: printf format [arg ...]".toList
  | format :: args =>
      let filling := formatted format args
      warnAll filling.complaints.reverse
      Sh.print filling.text
      match filling.fault with
      | some text => Sh.fault text
      | none => return if filling.complaints.isEmpty then 0 else 1

/-- The status of a condition. -/
def conditionStatus (args : List Octets) : Sh Nat := do
  let rich := (← get).extended
  let holds ← (Condition.decision rich args).recover fun text => Sh.fault text
  return if holds then 0 else 1

def test (args : List Octets) : Sh Nat := conditionStatus args

/-- The same, with a bracket behind the arguments. -/
def bracket (args : List Octets) : Sh Nat := do
  if args.getLast? = some [']'] then conditionStatus args.dropLast
  else Sh.fault "missing ]".toList

/-! ### Reading -/

/-- What has been read of a line: its pieces, the latest first, and the characters behind them,
the latest first. -/
structure Line where
  pieces : List Piece
  run : Octets

namespace Line

/-- Ends the characters that may be divided. -/
def close (l : Line) : Line :=
  if l.run.isEmpty then l else ⟨Piece.ofValue false l.run.reverse :: l.pieces, []⟩

/-- Adds a character that stands for itself. -/
def addQuoted (l : Line) (c : Char) : Line :=
  let l := l.close
  { l with pieces := Piece.ofText true [c] :: l.pieces }

def add (l : Line) (c : Char) : Line := { l with run := c :: l.run }

/-- Adds some text. A backslash lets the next character stand for itself, and is joined with a
line end. The first answer says that a backslash stands at the end, the second one that a line end
has come. -/
def addText (raw : Bool) (l : Line) (escaped : Bool) : Octets → Line × Bool × Bool
  | [] => (l, escaped, false)
  | c :: rest =>
      if escaped then addText raw (if c = '\n' then l.close else l.addQuoted c) false rest
      else if c = '\\' ∧ !raw then addText raw l true rest
      else if c = '\n' then (l, false, true)
      else addText raw (if c = '\x00' then l else l.add c) false rest

end Line

/-- How much of a line is read at once. -/
def lineSize : Nat := 65536

/-- Reads a line; the status is one when it has no end. The first argument bounds the number of
its parts. -/
def readLine (raw : Bool) : Nat → Line → Bool → Sh (Line × Nat)
  | 0, l, _ => return (l.close, 1)
  | n + 1, l, escaped => do
      match ← Program.call (.read 0 lineSize true) with
      | .error .interrupted =>
          Sh.noteSignals
          if (← get).pending.isEmpty then readLine raw n l escaped else return (l.close, 1)
      | .error _ => return (l.close, 1)
      | .ok [] => return (l.close, 1)
      | .ok data =>
          let (l, escaped, ended) := l.addText raw escaped data
          if ended then return (l.close, 0) else readLine raw n l escaped

/-- Gives some variables the fields of a line. -/
def assignFields : List Octets → List Field → Sh Unit
  | [], _ => return ()
  | name :: names, fields => do
      let _ ← readName name
      Sh.assign (String.ofList name) ((fields.head?.map Field.text).getD [])
      assignFields names (fields.drop 1)

def read (args : List Octets) : Sh Nat := do
  let rich := (← get).extended
  let (flags, names) ← readFlags (if rich then "rsep:d:n:t:u:a:" else "p:r") args
  let names := if names.isEmpty && rich then ["REPLY".toList] else names
  if names.isEmpty then Sh.fault "arg count".toList
  let raw := flags.any fun (c, _) => c == 'r'
  let (line, status) ← readLine raw Program.maxReads ⟨[], []⟩ false
  let set := ((← get).value? "IFS").getD blanks
  assignFields names (Piece.fields set (some names.length) line.pieces.reverse)
  return status

end Enquiry.Shell.Builtin
