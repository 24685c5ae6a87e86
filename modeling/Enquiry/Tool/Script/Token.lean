import Enquiry.Number.Extended
import Enquiry.Host.Octets

/-!
# Tokens of scripts

The language of scripts that `python3` runs marks its blocks by indentation. A source is divided
into tokens, among which are the ends of lines and the steps of the indentation. Each token knows
where it stands.
-/

namespace Enquiry.Tool.Script

open Host Number Text

/-- A stretch of a source. Lines are counted from one and columns from zero; the last column is the
one behind the stretch. -/
structure Span where
  line : Nat
  column : Nat
  lastLine : Nat
  lastColumn : Nat
  deriving DecidableEq, Repr, Inhabited

/-- The stretch from the beginning of one to the end of another. -/
def Span.to (a b : Span) : Span := ⟨a.line, a.column, b.lastLine, b.lastColumn⟩

/-- The beginning of a stretch. -/
def Span.start (s : Span) : Span := ⟨s.line, s.column, s.line, s.column⟩

inductive Token where
  | name (word : String)
  | whole (n : Nat)
  | real (x : Float)
  | text (t : List Char)
  | bytes (data : Octets)
  /-- A text with places for values, as it is written behind so many characters; `plain` when
  backslashes stand for themselves. -/
  | template (front : Nat) (raw : List Char) (plain : Bool)
  | sign (s : String)
  | lineEnd
  | deeper
  | back
  | finish

structure Lexeme where
  token : Token
  span : Span

/-- What is wrong with a source. -/
structure Problem where
  kind : String
  message : String
  span : Span

/-! ### Escapes -/

/-- The value of some digits of base sixteen, if there are as many. -/
def hexDigits? (count : Nat) (text : List Char) : Option Nat :=
  let digits := text.take count
  if digits.length = count ∧ digits.all (isDigitOf 16) then some (digitsValue 16 digits) else none

/-- The character of a letter behind a backslash. -/
def escapeLetter? (c : Char) : Option Char :=
  [('\\', '\\'), ('\'', '\''), ('"', '"'), ('a', '\x07'), ('b', '\x08'), ('f', '\x0C'),
    ('n', '\n'), ('r', '\r'), ('t', '\t'), ('v', '\x0B')].lookup c

/-- A text with its escapes resolved. Those with `u` name characters, which bytes have none of. The
first argument bounds the number of characters. -/
def unescaped (ofBytes : Bool) : Nat → List Char → List Char
  | 0, text => text
  | _, [] => []
  | n + 1, '\\' :: c :: rest =>
      let named (count : Nat) : List Char :=
        match hexDigits? count rest with
        | some k => Char.ofNat k :: unescaped ofBytes n (rest.drop count)
        | none => '\\' :: c :: unescaped ofBytes n rest
      if c = '\n' then unescaped ofBytes n rest
      else if isDigitOf 8 c then
        let digits := ((c :: rest).take 3).takeWhile (isDigitOf 8)
        Char.ofNat (digitsValue 8 digits) :: unescaped ofBytes n ((c :: rest).drop digits.length)
      else match escapeLetter? c with
        | some d => d :: unescaped ofBytes n rest
        | none =>
            if c = 'x' then named 2
            else if ofBytes then '\\' :: c :: unescaped ofBytes n rest
            else if c = 'u' then named 4
            else if c = 'U' then named 8
            else '\\' :: c :: unescaped ofBytes n rest
  | n + 1, c :: rest => c :: unescaped ofBytes n rest

/-- A text with its escapes resolved. -/
def resolved (ofBytes : Bool) (text : List Char) : List Char :=
  if text.contains '\\' then unescaped ofBytes (text.length + 1) text else text

/-! ### The scanner -/

/-- Where the scanner is. -/
structure Scanner where
  rest : List Char
  line : Nat
  column : Nat
  /-- The brackets that are open, the innermost first. -/
  brackets : List (String × Span)
  /-- The indentations of the blocks that are open, the innermost first. -/
  indents : List Nat
  /-- A line begins here. -/
  fresh : Bool
  /-- What has been found, the latest first. -/
  found : List Lexeme

abbrev Scanning := StateT Scanner (Except Problem)

namespace Scanning

def here : Scanning Span := do
  let s ← get
  return ⟨s.line, s.column, s.line, s.column⟩

def fault {α : Type} (kind message : String) : Scanning α := do
  throw ⟨kind, message, ← here⟩

/-- Goes on behind so many characters. -/
def skip (count : Nat) : Scanning Unit := modify fun s =>
  let taken := s.rest.take count
  let lines := taken.count '\n'
  { s with
    rest := s.rest.drop count
    line := s.line + lines
    column :=
      if lines = 0 then s.column + taken.length
      else (taken.reverse.takeWhile (· != '\n')).length }

/-- Finds a token that is so many characters long. -/
def find (token : Token) (count : Nat) : Scanning Unit := do
  let start ← here
  skip count
  let stop ← here
  modify fun s => { s with found := ⟨token, start.to stop⟩ :: s.found }

def isNameStart (c : Char) : Bool := c.isAlpha || c == '_' || 0x80 ≤ c.toNat

def isNamePart (c : Char) : Bool := isNameStart c || c.isDigit

/-- The columns that some blanks take. -/
def indentation (blanks : List Char) : Nat :=
  blanks.foldl (fun n c => if c = '\t' then (n / 8 + 1) * 8 else if c = ' ' then n + 1 else 0) 0

/-- Closes blocks until one with an indentation is open. The first argument bounds their number. -/
def close (indent : Nat) : Nat → Scanning Unit
  | 0 => return ()
  | n + 1 => do
      match (← get).indents with
      | top :: rest =>
          if indent < top then
            modify fun s => { s with indents := rest }
            find .back 0
            close indent n
          else if top < indent then
            let rest := (← get).rest.takeWhile (· != '\n')
            skip rest.length
            fault "IndentationError" "unindent does not match any outer indentation level"
      | [] => return ()

/-- Begins a line. -/
def beginLine : Scanning Unit := do
  let s ← get
  let blanks := s.rest.takeWhile fun c => c == ' ' || c == '\t' || c == '\x0C'
  match s.rest.drop blanks.length with
  | [] => skip blanks.length
  | '\n' :: _ => skip (blanks.length + 1)
  | '\r' :: '\n' :: _ => skip (blanks.length + 2)
  | '#' :: rest => skip (blanks.length + 1 + (rest.takeWhile (· != '\n')).length)
  | _ =>
      let indent := indentation blanks
      skip blanks.length
      modify fun s => { s with fresh := false }
      match s.indents with
      | top :: _ =>
          if top < indent then
            modify fun s => { s with indents := indent :: s.indents }
            find .deeper 0
          else close indent (s.indents.length + 1)
      | [] => return ()

/-- What a text in quotes holds, as far as they are closed: that, and how long it is. The first
argument bounds the number of characters. -/
def quoted (mark : List Char) (many : Bool) : Nat → List Char → List Char → Option (List Char)
  | 0, _, _ => none
  | n + 1, done, text =>
      if mark.isPrefixOf text then some done.reverse
      else match text with
        | [] => none
        | '\\' :: c :: rest => quoted mark many n (c :: '\\' :: done) rest
        | c :: rest => if c = '\n' ∧ !many then none else quoted mark many n (c :: done) rest

/-- The token of a text behind some letters. -/
def textToken (letters mark raw : List Char) : Token :=
  let plain := letters.contains 'r'
  let value (ofBytes : Bool) : List Char := if plain then raw else resolved ofBytes raw
  if letters.contains 'f' then .template (letters.length + mark.length) raw plain
  else if letters.contains 'b' then .bytes (value true)
  else .text (value false)

/-- Finds a text that stands in quotes behind some letters. -/
def findText (letters : List Char) (q : Char) (text : List Char) : Scanning Unit := do
  let many := text.take 3 = [q, q, q]
  let mark := if many then [q, q, q] else [q]
  let body := text.drop mark.length
  match quoted mark many (body.length + 1) [] body with
  | some raw =>
      find (textToken (letters.map Char.toLower) mark raw) (letters.length + raw.length + 2 * mark.length)
  | none =>
      let line := (← get).line
      if many then
        fault "SyntaxError" ("unterminated triple-quoted string literal (detected at line " ++
          String.ofList (decimal (line + text.count '\n')) ++ ")")
      else
        fault "SyntaxError" ("unterminated string literal (detected at line " ++
          String.ofList (decimal line) ++ ")")

/-- The digits of some base at the front of a text, between which low lines may stand. -/
def digitRun (base : Nat) (text : List Char) : List Char :=
  text.takeWhile fun c => isDigitOf base c || c == '_'

/-- Finds a number. -/
def findNumber (text : List Char) : Scanning Unit := do
  let based (base : Nat) : Scanning Unit := do
    let digits := digitRun base (text.drop 2)
    find (.whole (digitsValue base (digits.filter (· != '_')))) (2 + digits.length)
  match text.take 2 with
  | ['0', 'x'] | ['0', 'X'] => based 16
  | ['0', 'o'] | ['0', 'O'] => based 8
  | ['0', 'b'] | ['0', 'B'] => based 2
  | _ =>
      let whole := digitRun 10 text
      let rest := text.drop whole.length
      let places := match rest with
        | '.' :: more => '.' :: digitRun 10 more
        | _ => []
      let rest := rest.drop places.length
      let power := match rest with
        | e :: more =>
            if e = 'e' ∨ e = 'E' then
              let front := match more with
                | '-' :: _ => ['-']
                | '+' :: _ => ['+']
                | _ => []
              let digits := digitRun 10 (more.drop front.length)
              if digits.isEmpty then [] else e :: front ++ digits
            else []
        | [] => []
      let all := whole ++ places ++ power
      if places.isEmpty && power.isEmpty then
        find (.whole (digitsValue 10 (whole.filter (· != '_')))) whole.length
      else
        let value := (Extended.read? (all.filter (· != '_'))).map fun (x, _) => x.toFloat
        find (.real (value.getD 0)) all.length

/-- The signs, the longest first. -/
def signs : List String :=
  ["**=", "//=", ">>=", "<<=", "...", "**", "//", ">>", "<<", "<=", ">=", "==", "!=", "->", "+=",
    "-=", "*=", "/=", "%=", "&=", "|=", "^=", "@=", ":=", "+", "-", "*", "/", "%", "@", "&", "|",
    "^", "~", "<", ">", "(", ")", "[", "]", "\x7b", "\x7d", ",", ":", ".", ";", "="]

/-- The brackets that close others. -/
def closes : List (String × String) := [(")", "("), ("]", "["), ("\x7d", "\x7b")]

/-- Finds a sign. -/
def findSign (text : List Char) : Scanning Unit := do
  match signs.find? fun s => s.toList.isPrefixOf text with
  | none => fault "SyntaxError" "invalid syntax"
  | some s =>
      let start ← here
      if ["(", "[", "\x7b"].contains s then
        modify fun t => { t with brackets := (s, start) :: t.brackets }
      match closes.lookup s with
      | none => pure ()
      | some opening =>
          match (← get).brackets with
          | [] => fault "SyntaxError" ("unmatched '" ++ s ++ "'")
          | (other, place) :: rest =>
              if other ≠ opening then
                let line := if place.line = start.line then ""
                  else " on line " ++ String.ofList (decimal place.line)
                fault "SyntaxError" ("closing parenthesis '" ++ s ++
                  "' does not match opening parenthesis '" ++ other ++ "'" ++ line)
              modify fun t => { t with brackets := rest }
      find (.sign s) s.length

/-- Goes on by a token, or over what is none. -/
def step : Scanning Unit := do
  let s ← get
  if s.fresh && s.brackets.isEmpty then beginLine
  else match s.rest with
    | [] => return ()
    | '\n' :: _ =>
        if s.brackets.isEmpty then
          find .lineEnd 1
          modify fun s => { s with fresh := true }
        else skip 1
    | '\\' :: '\n' :: _ => skip 2
    | '#' :: rest => skip (1 + (rest.takeWhile (· != '\n')).length)
    | c :: rest =>
        if c = ' ' ∨ c = '\t' ∨ c = '\x0C' ∨ c = '\r' then skip 1
        else if c = '"' ∨ c = '\'' then findText [] c s.rest
        else if isNameStart c then
          let word := s.rest.takeWhile isNamePart
          let behind := s.rest.drop word.length
          match behind with
          | q :: _ =>
              if (q = '"' ∨ q = '\'') ∧ word.length ≤ 2 ∧
                  word.all fun c => "rbufRBUF".toList.contains c then
                findText word q behind
              else find (.name (String.ofList word)) word.length
          | [] => find (.name (String.ofList word)) word.length
        else if c.isDigit ∨ (c = '.' ∧ (rest.head?.map Char.isDigit).getD false) then
          findNumber s.rest
        else findSign s.rest

/-- Goes on to the end. The first argument bounds the number of steps. -/
def toEnd : Nat → Scanning Unit
  | 0 => return ()
  | n + 1 => do
      if (← get).rest.isEmpty then
        if !(← get).fresh then find .lineEnd 0
        close 0 (n + 1)
        find .finish 0
      else
        step
        toEnd n

end Scanning

/-- The tokens of a part of a line, which begins at some column. -/
def lexemesOfPart (line column : Nat) (source : List Char) : Except Problem (List Lexeme) := do
  let start : Scanner := ⟨source, line, column, [("", default)], [0], false, []⟩
  let (_, s) ← (Scanning.toEnd (2 * source.length + 2)).run start
  return s.found.reverse

/-- The tokens of a source, and the innermost bracket that is not closed. -/
def lexemesOf (source : List Char) : Except Problem (List Lexeme × Option (String × Span)) := do
  let start : Scanner := ⟨source, 1, 0, [], [0], true, []⟩
  let (_, s) ← (Scanning.toEnd (2 * source.length + 2)).run start
  return (s.found.reverse, s.brackets.head?)

end Enquiry.Tool.Script
