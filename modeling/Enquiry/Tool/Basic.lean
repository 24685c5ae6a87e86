import Enquiry.Host.Console
import Enquiry.Host.Octets
import Enquiry.Text.Integer
import Enquiry.Text.Layout
import Enquiry.Text.Search

/-!
# Tools

What the small programs of a machine have in common. A tool collects what it writes and hands it on
in larger pieces; it complains with its name in front, and breaks off with a status.
-/

namespace Enquiry.Tool

open Host Text

/-! ### Quoting

How tools write the names that they complain about: between single quotes with escapes, or in such
a way that a shell reads the same name again.
-/

/-- A byte that is not printed as it is. -/
def isHidden (c : Char) : Bool := c.toNat < 0x20 || 0x7E < c.toNat

/-- A hidden byte behind a backslash. -/
def escapedByte (c : Char) : Octets :=
  let named := [('\x07', 'a'), ('\x08', 'b'), ('\x0C', 'f'), ('\n', 'n'), ('\r', 'r'), ('\t', 't'),
    ('\x0B', 'v')]
  match named.lookup c with
  | some d => ['\\', d]
  | none =>
      let digits := Nat.toDigits 8 c.toNat
      '\\' :: List.replicate (3 - digits.length) '0' ++ digits

/-- A text between single quotes, with escapes. -/
def quoted (text : Octets) : Octets :=
  let char (c : Char) : Octets :=
    if c = '\\' ∨ c = '\'' then ['\\', c] else if isHidden c then escapedByte c else [c]
  '\'' :: text.flatMap char ++ ['\'']

/-- A byte that means something to a shell. -/
def isSpecial (c : Char) : Bool := isHidden c || " !\"$&'()*;<=>?[\\^\x60|".toList.contains c

/-- The inside of a text between single quotes. Hidden bytes stand outside of them. -/
def insideQuotes : Bool → Octets → Octets
  | _, [] => []
  | escaped, c :: rest =>
      if isHidden c then
        (if escaped then [] else "'$'".toList) ++ escapedByte c ++ insideQuotes true rest
      else
        (if escaped then "''".toList else []) ++
          (if c = '\'' then "'\\''".toList else [c]) ++ insideQuotes false rest

/-- A text in quotes, as a shell reads it. -/
def shellQuoted (text : Octets) : Octets :=
  if text.contains '\'' && text.all fun c => !isSpecial c || c == '\'' || c == ' ' then
    '"' :: text ++ ['"']
  else '\'' :: insideQuotes false text ++ ['\'']

/-- A text as a shell reads it, in quotes if it needs them. -/
def shown (text : Octets) : Octets :=
  let first := text.head?
  if text.isEmpty || text.any isSpecial || text.contains ':' || first == some '#' ||
      first == some '~' then
    shellQuoted text
  else text

/-! ### What a tool does -/

/-- What a tool remembers. -/
structure Memory where
  name : Octets
  vars : Variables
  /-- What it has written, the latest first, and how much that is. -/
  waiting : List Octets
  size : Nat
  /-- The status with which it ends. -/
  status : Nat

end Tool

open Host Text

/-- Something that a tool does; it breaks off with a status. -/
abbrev Tool := Program Nat Tool.Memory

namespace Tool

/-- The wording of an error. -/
def wording (e : Errno) : Octets := e.message.toList

/-- Writes to the diagnostics. -/
def tell (text : Octets) : Tool Unit := do
  let _ ← Program.writeAll 2 text

/-- Complains. -/
def warn (text : Octets) : Tool Unit := do
  tell ((← get).name ++ ": ".toList ++ text ++ ['\n'])

/-- The tool will end with a status. -/
def note (status : Nat) : Tool Unit := modify fun m => { m with status }

/-- Complains, and will end with a status. -/
def warnAnd (status : Nat) (text : Octets) : Tool Unit := do
  warn text
  note status

/-- Complains and breaks off. -/
def fail {α : Type} (status : Nat) (text : Octets) : Tool α := do
  warn text
  throw status

/-- Says where to find help, and breaks off. -/
def helpless {α : Type} (status : Nat) : Tool α := do
  let name := (← get).name
  tell ("Try '".toList ++ name ++ " --help' for more information.\n".toList)
  throw status

/-- Complains, says where to find help, and breaks off. -/
def misused {α : Type} (status : Nat) (text : Octets) : Tool α := do
  warn text
  helpless status

/-- Hands on what has been written. -/
def flush : Tool Unit := do
  let m ← get
  if m.waiting.isEmpty then return ()
  set { m with waiting := [], size := 0 }
  match ← Program.writeAll 1 m.waiting.reverse.flatten with
  | none => return ()
  | some e =>
      warn ("write error: ".toList ++ wording e)
      throw 1

/-- How much is handed on at once. -/
def pieceSize : Nat := 4096

/-- Writes a text. -/
def print (text : Octets) : Tool Unit := do
  if text.isEmpty then return ()
  modify fun m => { m with waiting := text :: m.waiting, size := m.size + text.length }
  if pieceSize ≤ (← get).size then flush

def printLine (text : Octets) : Tool Unit := print (text ++ ['\n'])

/-- The value of a variable. -/
def inherited? (name : String) : Tool (Option Octets) := do
  return (← get).vars.lookup (octets name)

/-- The end of a tool with a status. -/
def ending (status : Nat) : Tool Unit := do
  match ← Program.attempt flush with
  | .ok _ => Program.exit status
  | .error other => Program.exit other

/-- The task of a tool. -/
def task (run : List Octets → Tool Unit) (args : List Octets) (vars : Variables) : Task :=
  let whole : Tool Unit := do
    match ← Program.attempt (run (args.drop 1)) with
    | .ok _ => ending (← get).status
    | .error status => ending status
  whole ⟨args.headD [], vars, [], 0, 0⟩ (fun _ m => .exit m.status) fun status _ => .exit status

end Tool

end Enquiry
