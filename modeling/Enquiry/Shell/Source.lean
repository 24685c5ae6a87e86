import Enquiry.Shell.Command
import Enquiry.Text.Word

/-!
# Scripts that are being read

A script is read from its front, one command after another. Its lines are counted, because
complaints name them. What stands behind `<<` is read when the line ends; the commands refer to it
by a number.
-/

namespace Enquiry.Shell

open Host Text

/-- Why a script cannot be read on, and in which line. -/
structure SyntaxFault where
  line : Nat
  message : String
  deriving DecidableEq, Repr

/-- A word as it stands in a script. -/
structure RawWord where
  parts : Word
  /-- Some of it is quoted. -/
  quoted : Bool

/-- A redirection whose target has not been read yet. -/
inductive Arrow where
  | file (descriptor : Nat) (use : FileUse)
  | copy (descriptor : Nat)
  | document (descriptor : Nat) (dropTabs : Bool)
  | string (descriptor : Nat)

inductive Token where
  | finish | newline | semicolon | ampersand | both | either | bar | leftParen | rightParen | doubleSemicolon
  | arrow (a : Arrow)
  | reserved (name : String)
  | word (w : RawWord)

/-- A document that is announced and not read yet. -/
structure Announcement where
  number : Nat
  mark : Octets
  dropTabs : Bool
  /-- Nothing in it is expanded. -/
  quoted : Bool

structure Source where
  chars : Octets
  line : Nat
  /-- A token that has been read and put back. -/
  pushed : Option Token
  announced : List Announcement
  documents : List (Nat × Word)
  nextDocument : Nat
  /-- The script is in the richer dialect. -/
  extended : Bool

/-- A computation that reads from a script. -/
abbrev Read := StateT Source (Except SyntaxFault)

namespace RawWord

/-- The characters of a word without quotes and expansions. -/
def plain? (w : RawWord) : Option Octets :=
  if w.quoted then none
  else match w.parts with
    | [.text false chars] => some chars
    | _ => none

end RawWord

/-- A character that may stand in the name of a variable. -/
def isNameChar (c : Char) : Bool := isAsciiWord c

def isNameStart (c : Char) : Bool := isAsciiWord c && !isAsciiDigit c

def isName (o : Octets) : Bool := (o.head?.map isNameStart).getD false && o.all isNameChar

/-- The one-character parameters. -/
def isSpecial (c : Char) : Bool := isAsciiDigit c || "#?*@$!-".toList.contains c

/-- The reserved words. -/
def reservedWords : List String :=
  ["!", "case", "do", "done", "elif", "else", "esac", "fi", "for", "if", "in", "then", "until",
    "while", "\x7b", "\x7d"]

namespace Token

/-- What a complaint calls a token. -/
def name : Token → String
  | finish => "end of file"
  | newline => "newline"
  | semicolon => "\";\""
  | ampersand => "\"&\""
  | both => "\"&&\""
  | either => "\"||\""
  | bar => "\"|\""
  | leftParen => "\"(\""
  | rightParen => "\")\""
  | doubleSemicolon => "\";;\""
  | arrow _ => "redirection"
  | reserved keyword => "\"" ++ keyword ++ "\""
  | word _ => "word"

/-- The token ends a list of commands. -/
def endsList : Token → Bool
  | finish => true
  | rightParen => true
  | doubleSemicolon => true
  | reserved keyword =>
      ["do", "done", "elif", "else", "esac", "fi", "then", "\x7d"].contains keyword
  | _ => false

end Token

namespace Read

/-- A script cannot be read on. -/
def fail {α : Type} (message : String) : Read α := do
  throw ⟨(← get).line, message⟩

/-- The next character. -/
def peek : Read (Option Char) := do return (← get).chars.head?

/-- Takes the next character. -/
def take : Read (Option Char) := do
  let s ← get
  match s.chars with
  | [] => return none
  | c :: rest =>
      set { s with chars := rest, line := if c = '\n' then s.line + 1 else s.line }
      return some c

/-- What follows lines that are joined. -/
def dropJoins : Octets → Octets × Nat
  | '\\' :: '\n' :: rest =>
      let (rest, n) := dropJoins rest
      (rest, n + 1)
  | chars => (chars, 0)

/-- Passes over line ends behind a backslash. -/
def skipJoins : Read Unit :=
  modify fun s =>
    let (chars, n) := dropJoins s.chars
    { s with chars, line := s.line + n }

/-- The next character of joined lines. -/
def peekJoined : Read (Option Char) := do
  skipJoins
  peek

/-- Takes the next character of joined lines. -/
def takeJoined : Read (Option Char) := do
  skipJoins
  take

/-- Takes a character of joined lines if it is the next one. -/
def accept (c : Char) : Read Bool := do
  if (← peekJoined) = some c then
    let _ ← take
    return true
  else return false

/-- Takes the characters of joined lines up to the first for which a test fails. The first argument
bounds their number. -/
def takeWhile (p : Char → Bool) : Nat → Octets → Read Octets
  | 0, found => return found.reverse
  | n + 1, found => do
      match ← peekJoined with
      | some c =>
          if p c then
            let _ ← take
            takeWhile p n (c :: found)
          else return found.reverse
      | none => return found.reverse

/-- The characters that are left. -/
def size : Read Nat := do return (← get).chars.length

end Read

end Enquiry.Shell
