import Enquiry.Number.Extended
import Enquiry.Tool.Awk.Rule

/-!
# Tokens of the record processor

The words, numbers, texts, regular expressions and signs that a program is made of. A stroke begins
a regular expression where no operand stands in front of it.
-/

namespace Enquiry.Tool.Awk

open Host Number Text

inductive Token where
  | number (x : Float) (written : Octets)
  | text (t : Octets)
  | pattern (t : Octets)
  | word (w : Octets)
  /-- A name with an opening bracket directly behind it. -/
  | callee (w : Octets)
  | sign (s : Octets)
  /-- The end of a line. -/
  | ending
  deriving Inhabited

/-- A token with the number of its line. -/
abbrev Placed := Token × Nat

/-- What is wrong with a program, behind the name of the tool. -/
abbrev Problem := Octets

def problemAt (line : Nat) (what : Octets) : Problem :=
  "line ".toList ++ decimal line ++ ": ".toList ++ what

/-- An operand may stand in front of what follows. -/
def Token.endsOperand : Token → Bool
  | .number _ _ | .text _ | .pattern _ | .callee _ => true
  | .word w =>
      let w := String.ofList w
      !keywords.contains w || w == "getline"
  | .sign s => [")", "]", "$", "++", "--"].contains (String.ofList s)
  | .ending => false

/-- The character of an escape in a text, and what follows it. -/
def escape : Octets → Octets × Octets
  | [] => (['\\'], [])
  | c :: rest =>
      match [('"', '"'), ('\\', '\\'), ('/', '/'), ('a', '\x07'), ('b', '\x08'), ('f', '\x0C'),
          ('n', '\n'), ('r', '\r'), ('t', '\t'), ('v', '\x0B')].lookup c with
      | some d => if c = '/' then (['\\', '/'], rest) else ([d], rest)
      | none =>
          if isDigitOf 8 c then
            let digits := ((c :: rest).take 3).takeWhile (isDigitOf 8)
            ([Char.ofNat (digitsValue 8 digits % 256)], (c :: rest).drop digits.length)
          else if c = 'x' then
            let digits := (rest.take 2).takeWhile (isDigitOf 16)
            if digits.isEmpty then (['\\', 'x'], rest)
            else ([Char.ofNat (digitsValue 16 digits)], rest.drop digits.length)
          else if c = '\n' then ([], rest)
          else (['\\', c], rest)

/-- A text up to its closing quote, and what follows it; nothing when there is none. The first
argument bounds the number of characters. -/
def readText : Nat → Octets → Octets → Option (Octets × Octets)
  | 0, _, _ => none
  | _, _, [] => none
  | n + 1, found, c :: rest =>
      if c = '"' then some (found.reverse, rest)
      else if c = '\n' then none
      else if c = '\\' then
        let (chars, rest) := escape rest
        readText n (chars.reverse ++ found) rest
      else readText n (c :: found) rest

/-- A text with its escapes. -/
def unescaped : Nat → Octets → Octets
  | 0, text => text
  | _, [] => []
  | n + 1, c :: rest =>
      if c = '\\' then
        let (chars, rest) := escape rest
        chars ++ unescaped n rest
      else c :: unescaped n rest

/-- A regular expression up to its closing stroke, and what follows it; a stroke may stand in a set.
The first argument bounds the number of characters. -/
def readPattern : Nat → Bool → Octets → Octets → Option (Octets × Octets)
  | 0, _, _, _ => none
  | _, _, _, [] => none
  | n + 1, inSet, found, c :: rest =>
      if c = '\n' then none
      else if c = '/' ∧ !inSet then some (found.reverse, rest)
      else if c = '\\' then
        match rest with
        | [] => none
        | d :: rest =>
            if d = '/' then readPattern n inSet ('/' :: found) rest
            else readPattern n inSet (d :: '\\' :: found) rest
      else if c = '[' ∧ !inSet then
        let (more, rest) := match rest with
          | '^' :: ']' :: rest => ([']', '^'], rest)
          | ']' :: rest => ([']'], rest)
          | '^' :: rest => (['^'], rest)
          | rest => ([], rest)
        readPattern n true (more ++ c :: found) rest
      else readPattern n (inSet && c != ']') (c :: found) rest

/-- Signs of more than one character. -/
def longSigns : List String :=
  ["<=", "==", "!=", ">=", "&&", "||", ">>", "++", "--", "+=", "-=", "*=", "/=", "%=", "^=", "!~"]

def shortSigns : Octets := "\x7b\x7d()[];,+-*/%^!<>|?:~$=".toList

/-- The sign at the front of a text. -/
def signAt? (text : Octets) : Option Octets :=
  let front := text.take 2
  if longSigns.contains (String.ofList front) then some front
  else match text with
    | c :: _ => if shortSigns.contains c then some [c] else none
    | [] => none

def isWordStart (c : Char) : Bool := c.isAlpha || c == '_'

/-- The tokens of a text. The first argument bounds the number of steps, `line` is the number of the
line, and `found` holds the tokens so far, the latest first. -/
def tokensFrom : Nat → Nat → List Placed → Octets → Except Problem (List Placed)
  | 0, _, found, _ => .ok found.reverse
  | _, line, found, [] => .ok ((Token.ending, line) :: found).reverse
  | n + 1, line, found, c :: rest => do
      let lineEnds (o : Octets) : Nat := (o.filter (· == '\n')).length
      let add (t : Token) (rest : Octets) := tokensFrom n line ((t, line) :: found) rest
      if c = '\n' then tokensFrom n (line + 1) ((.ending, line) :: found) rest
      else if isGap c then tokensFrom n line found rest
      else if c = '#' then tokensFrom n line found (rest.dropWhile (· != '\n'))
      else if c = '\\' ∧ rest.head? = some '\n' then tokensFrom n (line + 1) found (rest.drop 1)
      else if c = '"' then
        match readText (rest.length + 1) [] rest with
        | some (t, after) =>
            let used := rest.take (rest.length - after.length)
            tokensFrom n (line + lineEnds used) ((.text t, line) :: found) after
        | none =>
            throw (problemAt line ("runaway string constant \"".toList ++ rest.take 10 ++
              " ...".toList))
      else if isAsciiDigit c ∨ (c = '.' ∧ rest.head?.any isAsciiDigit) then
        let isPlain := c ≠ '0' ∨ !(rest.head?.any fun d => d.toLower == 'x')
        match if isPlain then Extended.read? (c :: rest) else none with
        | some (x, after) =>
            add (.number x.toFloat ((c :: rest).take (rest.length + 1 - after.length))) after
        | none => add (.number 0 [c]) rest
      else if isWordStart c then
        let word := (c :: rest).takeWhile fun c => isWordStart c || isAsciiDigit c
        let after := (c :: rest).drop word.length
        let text := String.ofList word
        let isCall := after.head? = some '(' ∧ !keywords.contains text ∧
          (builtins.lookup text).isNone
        add (if isCall then .callee word else .word word) after
      else if c = '/' ∧ !(found.head?.any fun t => t.1.endsOperand) then
        match readPattern (rest.length + 1) false [] rest with
        | some (t, after) => add (.pattern t) after
        | none =>
            throw (problemAt line ("runaway regular expression /".toList ++ rest.take 10 ++
              " ...".toList))
      else match signAt? (c :: rest) with
        | some s => add (.sign s) ((c :: rest).drop s.length)
        | none =>
            if c = '&' then add (.sign ['&']) rest
            else throw (decimal line ++ ": unexpected character '".toList ++ [c, '\''])

/-- The tokens of a program. -/
def tokensOf (text : Octets) : Except Problem (List Placed) :=
  tokensFrom (text.length + 1) 1 [] text

/-- A token as it stands in a complaint. -/
def Token.written : Token → Octets
  | .number _ w => w
  | .text t => '"' :: t ++ ['"']
  | .pattern t => '/' :: t ++ ['/']
  | .word w => w
  | .callee w => w
  | .sign s => s
  | .ending => "end of line".toList

end Enquiry.Tool.Awk
