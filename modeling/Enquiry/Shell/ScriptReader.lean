import Enquiry.Shell.WordReader

/-!
# Reading commands

`Read.complete` reads one complete command: everything up to the end of a line at which no command
is open. What stands on later lines is not looked at, so that it may be no command at all.
-/

namespace Enquiry.Shell

open Host Text

/-- How a list of commands ends. -/
inductive ListKind where
  /-- With the line. -/
  | line
  /-- With a word that closes it; it has to hold a command. -/
  | body
  /-- With a word that closes it. -/
  | inner
  deriving DecidableEq, Repr

/-- How commands are read that stand in others. -/
structure Grammar where
  list : ListKind → Read (Option Command)

/-- What is looked for in front of a token. -/
structure Expected where
  /-- Line ends are passed over. -/
  lines : Bool
  /-- Reserved words are recognized. -/
  keywords : Bool

namespace Expected

def word : Expected := ⟨false, false⟩

def keyword : Expected := ⟨false, true⟩

def command : Expected := ⟨true, true⟩

end Expected

namespace Read

/-! ### Tokens -/

/-- The longest complaint about a token. -/
def maxComplaint : Nat := 63

/-- A token stands where it cannot. -/
def unexpected {α : Type} (t : Token) (wanted : Option Token) : Read α :=
  let text := t.name ++ " unexpected" ++
    match wanted with
    | some w => " (expecting " ++ w.name ++ ")"
    | none => ""
  fail (String.ofList (text.toList.take maxComplaint))

/-- Puts a token back. -/
def pushBack (t : Token) : Read Unit := modify fun s => { s with pushed := some t }

/-- Passes over blanks and a comment. -/
def skipBlank : Read Unit := do
  let n ← size
  let _ ← takeWhile (fun c => c == ' ' || c == '\t') n []
  if (← peek) = some '#' then
    modify fun s => { s with chars := s.chars.dropWhile (· != '\n') }

/-- A token whose sign may be doubled. -/
def doubled (c : Char) (single double : Token) : Read Token := do
  if ← accept c then return double else return single

/-- Reads the sign of a redirection. -/
def readArrow (descriptor : Option Nat) : Read Arrow := do
  let extended := (← get).extended
  if ← accept '>' then
    let d := descriptor.getD 1
    if ← accept '>' then return .file d .append
    else if ← accept '|' then return .file d .clobber
    else if ← accept '&' then return .copy d
    else return .file d .output
  else
    let _ ← take
    let d := descriptor.getD 0
    if ← accept '<' then
      if extended && (← accept '<') then return .string d
      else return .document d (← accept '-')
    else if ← accept '&' then return .copy d
    else if ← accept '>' then return .file d .update
    else return .file d .input

/-- How the commands in a word are read. -/
def inner (g : Grammar) : Read (Option Command) := g.list .inner

/-- The descriptor in front of the sign of a redirection, if a word is one. -/
def descriptorOf? (d : Draft) : Option (Option Nat) :=
  if d.quoted then none
  else match d.word with
    | [] => some none
    | [.text false [c]] => (digitValue? c).map some
    | _ => none

/-- Reads a token from the script. -/
def rawToken (g : Grammar) (closing : Read (Option Command)) (setting : Setting) : Read Token := do
  let s ← get
  match s.pushed with
  | some t =>
      set { s with pushed := none }
      return t
  | none =>
      skipBlank
      match ← peekJoined with
      | none => return .finish
      | some '\n' =>
          let _ ← take
          return .newline
      | some '&' =>
          let _ ← take
          doubled '&' .ampersand .both
      | some '|' =>
          let _ ← take
          doubled '|' .bar .either
      | some ';' =>
          let _ ← take
          doubled ';' .semicolon .doubleSemicolon
      | some '(' =>
          let _ ← take
          return .leftParen
      | some ')' =>
          let _ ← take
          return .rightParen
      | some _ =>
          let d ← readWord setting (inner g) closing
          let next ← peek
          match descriptorOf? d with
          | some descriptor =>
              if next = some '>' ∨ next = some '<' then return .arrow (← readArrow descriptor)
              else return .word ⟨d.word, d.quoted⟩
          | none => return .word ⟨d.word, d.quoted⟩

/-- A word that is reserved becomes a token of its own. -/
def recognize (w : RawWord) : Token :=
  match w.plain? with
  | some chars =>
      let name := String.ofList chars
      if reservedWords.contains name then .reserved name else .word w
  | none => .word w

/-- Reads the documents that have been announced. -/
def readDocuments (g : Grammar) (closing : Read (Option Command)) : Read Unit := do
  for a in (← get).announced do
    modify fun s => { s with announced := [] }
    let word ← readDocument (inner g) closing a
    modify fun s => { s with documents := (a.number, word) :: s.documents }
  modify fun s => { s with announced := [] }

/-- Reads tokens until one is no line end. The first argument bounds their number. -/
def pastLines (g : Grammar) (closing : Read (Option Command)) : Nat → Token → Read Token
  | 0, t => return t
  | n + 1, .newline => do
      readDocuments g closing
      pastLines g closing n (← rawToken g closing .command)
  | _, t => return t

/-- The closing parenthesis of commands in a word. The first argument bounds their depth. -/
def closeSubstitution (g : Grammar) : Nat → Read (Option Command)
  | 0 => fail "Too many parentheses"
  | n + 1 => do
      match ← rawToken g (closeSubstitution g n) .command with
      | .rightParen => return none
      | t => unexpected t (some .rightParen)

/-- How deep commands may stand in words. -/
def maxDepth : Nat := 1000

def closing (g : Grammar) : Read (Option Command) := closeSubstitution g maxDepth

/-- Reads the next token. -/
def token (g : Grammar) (e : Expected) : Read Token := do
  let t ← rawToken g (closing g) .command
  let t ← if e.lines then pastLines g (closing g) ((← size) + 1) t else pure t
  match t with
  | .word w => return if e.keywords then recognize w else .word w
  | t => return t

/-- Reads a reserved word that has to come. -/
def expect (g : Grammar) (e : Expected) (name : String) : Read Unit := do
  match ← token g e with
  | .reserved found =>
      if found = name then return () else unexpected (.reserved found) (some (.reserved name))
  | t => unexpected t (some (.reserved name))

/-! ### Redirections -/

/-- The characters of a word without its quotes. -/
def unquoted (w : Word) : Octets :=
  w.flatMap fun part =>
    match part with
    | .text _ chars => chars
    | _ => []

/-- Reads what a redirection leads to. -/
def readRedirect (g : Grammar) (a : Arrow) : Read Redirect := do
  let setting := match a with
    | .document _ _ => Setting.mark
    | _ => Setting.command
  match ← rawToken g (closing g) setting with
  | .word w =>
      match a with
      | .file d use => return .file d use w.parts
      | .copy d => return .copy d w.parts
      | .string d => return .string d w.parts
      | .document d dropTabs =>
          let s ← get
          let number := s.nextDocument
          let a : Announcement := ⟨number, unquoted w.parts, dropTabs, w.quoted⟩
          set { s with nextDocument := number + 1, announced := s.announced ++ [a] }
          return .document d number
  | t => unexpected t none

/-- Reads the redirections behind a command. The first argument bounds their number. -/
def readRedirects (g : Grammar) : Nat → List Redirect → Read (List Redirect)
  | 0, found => return found.reverse
  | n + 1, found => do
      match ← token g .keyword with
      | .arrow a => do
          let r ← readRedirect g a
          readRedirects g n (r :: found)
      | t => do
          pushBack t
          return found.reverse

/-! ### Commands -/

/-- The name and the equals sign at the front of a word. -/
def isAssignment (w : Word) : Bool :=
  match w with
  | .text false chars :: _ =>
      let name := chars.takeWhile isNameChar
      isName name && (chars.drop name.length).head? == some '='
  | _ => false

/-- The commands of the shell that no function can replace. -/
def specialBuiltins : List String :=
  [".", ":", "break", "continue", "eval", "exec", "exit", "export", "readonly", "return", "set",
    "shift", "times", "trap", "unset"]

/-- What has been read of a command that is a row of words, each list the latest first. -/
structure Row where
  assignments : List Word
  words : List Word
  redirects : List Redirect

/-- Reads a command that is a row of words, or the definition of a function. The first argument
bounds the number of its tokens. -/
def readRow (g : Grammar) (line : Nat) (body : Read Command) : Nat → Row → Read Command
  | 0, _ => fail "Too many words"
  | n + 1, row => do
      match ← token g .word with
      | .word w =>
          if row.words.isEmpty && isAssignment w.parts then
            readRow g line body n { row with assignments := w.parts :: row.assignments }
          else readRow g line body n { row with words := w.parts :: row.words }
      | .arrow a =>
          let r ← readRedirect g a
          readRow g line body n { row with redirects := r :: row.redirects }
      | t =>
          let finished : Read Command := do
            pushBack t
            return .simple line row.assignments.reverse row.words.reverse row.redirects.reverse
          match t, row with
          | .leftParen, ⟨[], [name], []⟩ =>
              match ← token g .word with
              | .rightParen =>
                  let chars := unquoted name
                  if !isName chars || specialBuiltins.contains (String.ofList chars) then
                    fail "Bad function name"
                  let first ← token g .command
                  pushBack first
                  let line := (← get).line
                  return .define line (String.ofList chars) (← body)
              | t => unexpected t (some .rightParen)
          | _, _ => finished

/-- Reads words up to the end of a line. The first argument bounds their number. -/
def readFields (g : Grammar) : Nat → List Word → Read (List Word)
  | 0, found => return found.reverse
  | n + 1, found => do
      match ← token g .word with
      | .word w => readFields g n (w.parts :: found)
      | .newline => do
          pushBack .newline
          return found.reverse
      | .semicolon => return found.reverse
      | t => unexpected t none

/-- Reads what follows the condition of `if` or `elif`. The first argument bounds the number of
conditions. -/
def readBranch (g : Grammar) : Nat → Read Command
  | 0 => fail "Too many conditions"
  | n + 1 => do
      let condition ← g.list .body
      expect g .keyword "then"
      let yes ← g.list .body
      let empty : Command := .simple 0 [] [] []
      let t ← token g .keyword
      let no ← match t with
        | .reserved "elif" => some <$> readBranch g n
        | .reserved "else" => g.list .body
        | t => do
            pushBack t
            pure none
      return .branch (condition.getD empty) (yes.getD empty) no

/-- Reads the patterns of an arm, up to the closing parenthesis. The first argument bounds their
number. -/
def readPatterns (g : Grammar) : Nat → Token → List Word → Read (List Word)
  | 0, _, _ => fail "Too many patterns"
  | n + 1, t, found => do
      let word : Word := match t with
        | .word w => w.parts
        | .reserved name => [.text false name.toList]
        | _ => []
      match ← token g .word with
      | .bar => do
          let next ← token g .word
          readPatterns g n next (word :: found)
      | .rightParen => return (word :: found).reverse
      | t => unexpected t (some .rightParen)

/-- Reads the arms of `case`. The first argument bounds their number. -/
def readArms (g : Grammar) : Nat → List (List Word × Option Command) →
    Read (List (List Word × Option Command))
  | 0, found => return found.reverse
  | n + 1, found => do
      match ← token g .command with
      | .reserved "esac" => return found.reverse
      | t => do
          let t ← match t with
            | .leftParen => token g .word
            | t => pure t
          let patterns ← readPatterns g ((← size) + 1) t []
          let body ← g.list .inner
          let found := (patterns, body) :: found
          match ← token g .command with
          | .reserved "esac" => return found.reverse
          | .doubleSemicolon => readArms g n found
          | t => unexpected t (some .doubleSemicolon)

/-- The command of a list, which is not empty. -/
def body (g : Grammar) : Read Command := do
  return (← g.list .body).getD (.simple 0 [] [] [])

/-- Reads `do`, commands and `done`. -/
def readLoopBody (g : Grammar) (e : Expected) : Read Command := do
  expect g e "do"
  let commands ← body g
  expect g .keyword "done"
  return commands

/-- Reads the redirections behind a compound command. -/
def redirectable (g : Grammar) (line : Nat) (c : Command) : Read Command := do
  let redirects ← readRedirects g ((← size) + 1) []
  return if redirects.isEmpty then c
  else match c with
    | .subshell line body _ => .subshell line body redirects
    | c => .redirected line c redirects

/-- What follows `for`. -/
def readEach (g : Grammar) (line : Nat) : Read Command := do
  let name ← match ← token g .word with
    | .word w =>
        match w.plain? with
        | some chars => if isName chars then pure chars else fail "Bad for loop variable"
        | none => fail "Bad for loop variable"
    | _ => fail "Bad for loop variable"
  let words ← match ← token g .command with
    | .reserved "in" => some <$> readFields g ((← size) + 1) []
    | .semicolon => pure none
    | t => do
        pushBack t
        pure none
  return .each line (String.ofList name) words (← readLoopBody g .command)

/-- What follows `case`. -/
def readSelect (g : Grammar) (line : Nat) : Read Command := do
  match ← token g .word with
  | .word w =>
      expect g .command "in"
      return .select line w.parts (← readArms g ((← size) + 1) [])
  | t => unexpected t (some (.word ⟨[], false⟩))

/-- Reads one command. The first argument bounds the depth of functions in functions. -/
def command (g : Grammar) : Nat → Read Command
  | 0 => fail "Too many functions"
  | n + 1 => do
      let line := (← get).line
      match ← token g .keyword with
      | .reserved "if" =>
          let c ← readBranch g ((← size) + 1)
          expect g .keyword "fi"
          redirectable g line c
      | .reserved "while" =>
          let condition ← body g
          let commands ← readLoopBody g .keyword
          redirectable g line (.loop false condition commands)
      | .reserved "until" =>
          let condition ← body g
          let commands ← readLoopBody g .keyword
          redirectable g line (.loop true condition commands)
      | .reserved "for" => do redirectable g line (← readEach g line)
      | .reserved "case" => do redirectable g line (← readSelect g line)
      | .leftParen =>
          let commands ← body g
          match ← token g .keyword with
          | .rightParen => redirectable g line (.subshell line commands [])
          | t => unexpected t (some .rightParen)
      | .reserved "\x7b" =>
          let commands ← body g
          expect g .keyword "\x7d"
          redirectable g line commands
      | .word w =>
          pushBack (.word w)
          readRow g (← get).line (command g n) ((← size) + 2) ⟨[], [], []⟩
      | .arrow a =>
          pushBack (.arrow a)
          readRow g (← get).line (command g n) ((← size) + 2) ⟨[], [], []⟩
      | t => unexpected t none

/-- Reads the further commands of a pipeline. The first argument bounds their number. -/
def readStages (g : Grammar) : Nat → List Command → Read (List Command)
  | 0, found => return found.reverse
  | n + 1, found => do
      match ← token g .word with
      | .bar => do
          let t ← token g .command
          pushBack t
          let next ← command g maxDepth
          readStages g n (next :: found)
      | t => do
          pushBack t
          return found.reverse

def pipeline (g : Grammar) (e : Expected) : Read Command := do
  let first ← token g e
  let isNegated := match first with
    | .reserved "!" => true
    | _ => false
  if !isNegated then pushBack first
  let one ← command g maxDepth
  let c ← match ← readStages g ((← size) + 1) [one] with
    | [c] => pure c
    | stages => pure (.pipeline false stages)
  return if isNegated then .negated c else c

/-- Reads further commands joined by `&&` and `||`. The first argument bounds their number. -/
def readChain (g : Grammar) : Nat → Command → Read Command
  | 0, c => return c
  | n + 1, c => do
      match ← token g .word with
      | .both => do
          let next ← pipeline g .command
          readChain g n (.both c next)
      | .either => do
          let next ← pipeline g .command
          readChain g n (.either c next)
      | t => do
          pushBack t
          return c

/-- The command that does not wait for its end. -/
def inBackground (line : Nat) : Command → Command
  | .pipeline _ stages => .pipeline true stages
  | .redirected line body redirects => .background line body redirects
  | c => .background line c []

/-- Puts a command behind others. -/
def behind (commands : Option Command) (c : Command) : Command :=
  match commands with
  | some first => .sequence first c
  | none => c

/-- Reads the commands of a list behind some that have been read. The first argument bounds their
number. -/
def readList (g : Grammar) (kind : ListKind) : Nat → Option Command → Read (Option Command)
  | 0, found => return found
  | n + 1, found => do
      let t ← token g ⟨kind != ListKind.line, true⟩
      let isOver := match t with
        | .finish => true
        | t => (kind == ListKind.inner || (kind == ListKind.body && found.isSome)) && t.endsList
      match t, isOver with
      | .newline, _ => do
          readDocuments g (closing g)
          return found
      | t, true => do
          pushBack t
          return found
      | t, false => do
          pushBack t
          let line := (← get).line
          let first ← pipeline g .keyword
          let c ← readChain g ((← size) + 1) first
          match ← token g .word with
          | .ampersand => readList g kind n (some (behind found (inBackground line c)))
          | .semicolon => readList g kind n (some (behind found c))
          | .newline => do
              pushBack .newline
              readList g kind n (some (behind found c))
          | .finish => do
              pushBack .finish
              return some (behind found c)
          | t =>
              if kind = ListKind.line then unexpected t none
              else
                pushBack t
                return some (behind found c)

/-- The commands in others, to some depth. -/
def grammar : Nat → Grammar
  | 0 => ⟨fun _ => fail "Too many commands in each other"⟩
  | n + 1 => ⟨fun kind => do readList (grammar n) kind ((← size) + 2) none⟩

/-- Reads one complete command: nothing when the script is over, and no command for an empty
line. -/
def complete : Read (Option (Option Command)) := do
  modify fun s => { s with pushed := none }
  let c ← (grammar maxDepth).list .line
  match c, (← get).pushed with
  | none, some .finish => return none
  | c, _ => return some c

end Read

/-- A script from its first line on. -/
def Source.begin (chars : Octets) (extended : Bool) (nextDocument : Nat) : Source :=
  ⟨chars, 1, none, [], [], nextDocument, extended⟩

end Enquiry.Shell
