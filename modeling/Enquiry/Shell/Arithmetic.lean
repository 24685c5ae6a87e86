import Enquiry.Shell.State
import Enquiry.Text.Integer

/-!
# Arithmetic of the shell

Expressions over signed words: assignments, the choice between two values, and the binary and unary
operators of C. An expression is evaluated while it is read, so that the first thing that is wrong
is what is complained about; what stands behind an undecided `&&`, `||` or `?` is read and not
evaluated.
-/

namespace Enquiry.Shell

open Host Text

namespace Arithmetic

inductive Lexeme where
  | number (n : Int)
  | name (name : String)
  /-- An operator or a bracket. -/
  | sign (text : String)
  /-- No character of any expression. -/
  | bad
  deriving DecidableEq, Repr

/-- The signs, the longer ones in front of those that they begin with. -/
def signs : List String :=
  ["<<=", ">>=", "==", "!=", "<=", ">=", "<<", ">>", "&&", "||", "+=", "-=", "*=", "/=", "%=",
    "&=", "|=", "^=", "+", "-", "*", "/", "%", "=", "!", "<", ">", "&", "|", "^", "~", "?", ":",
    "(", ")"]

/-- The lexemes of an expression. The first argument bounds their number. -/
def lexemes : Nat → Octets → List Lexeme
  | 0, _ => []
  | _, [] => []
  | n + 1, c :: rest =>
      let text := c :: rest
      if c = ' ' ∨ c = '\t' ∨ c = '\n' then lexemes n rest
      else if isAsciiDigit c then
        match Integer.read? none text with
        | some number => .number number.value :: lexemes n number.rest
        | none => [.bad]
      else if isNameStart c then
        let name := text.takeWhile isNameChar
        .name (String.ofList name) :: lexemes n (text.drop name.length)
      else match signs.find? fun s => s.toList.isPrefixOf text with
        | some s => .sign s :: lexemes n (text.drop s.length)
        | none => [.bad]

def truth (b : Bool) : Int := if b then 1 else 0

/-- An operator on the bits of two words. -/
def bitwise (f : Nat → Nat → Nat) (a b : Int) : Int :=
  let bits (n : Int) : Nat := (n % (Number.wordBound : Int)).toNat
  Integer.wrap (f (bits a) (bits b))

/-- How many places a word is shifted by. -/
def places (n : Int) : Nat := (n % 64).toNat

/-- The value of a binary operator. Only divisions by zero have none. -/
def result? (sign : String) (a b : Int) : Option Int :=
  match sign with
  | "*" => some (Integer.wrap (a * b))
  | "/" => if b = 0 then none else some (Integer.wrap (Int.tdiv a b))
  | "%" => if b = 0 then none else some (Int.tmod a b)
  | "+" => some (Integer.wrap (a + b))
  | "-" => some (Integer.wrap (a - b))
  | "<<" => some (Integer.wrap (a * Nat.pow 2 (places b)))
  | ">>" => some (Int.fdiv a (Nat.pow 2 (places b)))
  | "<" => some (truth (a < b))
  | "<=" => some (truth (a ≤ b))
  | ">" => some (truth (b < a))
  | ">=" => some (truth (b ≤ a))
  | "==" => some (truth (a = b))
  | "!=" => some (truth (a ≠ b))
  | "&" => some (bitwise Nat.land a b)
  | "^" => some (bitwise Nat.xor a b)
  | "|" => some (bitwise Nat.lor a b)
  | _ => some 0

/-- The binary operators, the tightest first. -/
def levels : List (List String) :=
  [["*", "/", "%"], ["+", "-"], ["<<", ">>"], ["<", "<=", ">", ">="], ["==", "!="], ["&"], ["^"],
    ["|"]]

/-- The operators that assign, with what they do to the old value. -/
def assignments : List (String × Option String) :=
  [("=", none), ("+=", some "+"), ("-=", some "-"), ("*=", some "*"), ("/=", some "/"),
    ("%=", some "%"), ("<<=", some "<<"), (">>=", some ">>"), ("&=", some "&"), ("|=", some "|"),
    ("^=", some "^")]

/-- What is left of an expression behind a value. -/
abbrev Reading := Sh (Int × List Lexeme)

/-- Complains about an expression. -/
def complain {α : Type} (whole : Octets) (text : String) : Sh α :=
  Sh.fault ("arithmetic expression: ".toList ++ text.toList ++ ": \"".toList ++ whole ++ ['"'])

/-- The value of a variable. -/
def valueOf (name : String) : Sh Int := do
  let text := ((← get).value? name).getD []
  if text.all isGap then return 0
  match Integer.whole? none text with
  | some n => return n
  | none => Sh.fault ("Illegal number: ".toList ++ text)

def operate (whole : Octets) (sign : String) (a b : Int) : Sh Int :=
  match result? sign a b with
  | some n => return n
  | none => complain whole "division by zero"

/-- How an expression in brackets, with or without its value, is read. -/
abbrev Inner := Bool → List Lexeme → Reading

/-- Reads a value and the unary operators in front of it. With `live` it is evaluated. -/
def unary (whole : Octets) (inner : Inner) (live : Bool) : List Lexeme → Reading
  | .number n :: rest => return (n, rest)
  | .name name :: rest => do
      let n ← if live then valueOf name else pure 0
      return (n, rest)
  | .sign "+" :: rest => unary whole inner live rest
  | .sign "-" :: rest => do
      let (n, rest) ← unary whole inner live rest
      return (Integer.wrap (-n), rest)
  | .sign "!" :: rest => do
      let (n, rest) ← unary whole inner live rest
      return (truth (n == 0), rest)
  | .sign "~" :: rest => do
      let (n, rest) ← unary whole inner live rest
      return (-n - 1, rest)
  | .sign "(" :: rest => do
      match ← inner live rest with
      | (n, .sign ")" :: rest) => return (n, rest)
      | _ => complain whole "expecting ')'"
  | _ => complain whole "expecting primary"

/-- Reads what follows a value on a level of operators. The first argument bounds the number of
operators. -/
def onward (whole : Octets) (live : Bool) (tighter : List Lexeme → Reading) (signs : List String) :
    Nat → Int → List Lexeme → Reading
  | n + 1, a, .sign s :: rest => do
      if signs.contains s then
        let (b, rest) ← tighter rest
        let c ← if live then operate whole s a b else pure b
        onward whole live tighter signs n c rest
      else return (a, .sign s :: rest)
  | _, a, rest => return (a, rest)

/-- Reads an expression of binary operators, of which the loosest come first. -/
def binary (whole : Octets) (inner : Inner) (live : Bool) :
    List (List String) → List Lexeme → Reading
  | [], text => unary whole inner live text
  | signs :: tighter, text => do
      let (a, rest) ← binary whole inner live tighter text
      onward whole live (binary whole inner live tighter) signs (rest.length + 1) a rest

/-- Reads expressions joined by `&&`. The first argument bounds their number. -/
def both (whole : Octets) (inner : Inner) : Nat → Bool → List Lexeme → Reading
  | 0, _, _ => complain whole "expecting EOF"
  | n + 1, live, text => do
      match ← binary whole inner live levels.reverse text with
      | (a, .sign "&&" :: rest) =>
          let (b, rest) ← both whole inner n (live && a != 0) rest
          return (truth (a != 0 && b != 0), rest)
      | found => return found

/-- Reads expressions joined by `||`. The first argument bounds their number. -/
def either (whole : Octets) (inner : Inner) : Nat → Bool → List Lexeme → Reading
  | 0, _, _ => complain whole "expecting EOF"
  | n + 1, live, text => do
      match ← both whole inner (text.length + 1) live text with
      | (a, .sign "||" :: rest) =>
          let (b, rest) ← either whole inner n (live && a == 0) rest
          return (truth (a != 0 || b != 0), rest)
      | found => return found

/-- Reads a choice between two values. The first argument bounds the number of choices. -/
def choice (whole : Octets) (inner : Inner) : Nat → Bool → List Lexeme → Reading
  | 0, _, _ => complain whole "expecting EOF"
  | n + 1, live, text => do
      match ← either whole inner (text.length + 1) live text with
      | (a, .sign "?" :: rest) =>
          match ← inner (live && a != 0) rest with
          | (b, .sign ":" :: rest) =>
              let (c, rest) ← choice whole inner n (live && a == 0) rest
              return (if a != 0 then b else c, rest)
          | _ => complain whole "expecting ':'"
      | found => return found

/-- Reads any expression. The first argument bounds the depth of brackets. -/
def expression (whole : Octets) : Nat → Inner
  | 0, _, _ => complain whole "expecting EOF"
  | n + 1, live, .name name :: .sign s :: rest =>
      match assignments.lookup s with
      | some operator => do
          let (b, rest) ← expression whole n live rest
          if !live then return (b, rest)
          let c ← match operator with
            | none => pure b
            | some sign => do
                let a ← valueOf name
                operate whole sign a b
          Sh.assign name (signed c)
          return (c, rest)
      | none =>
          choice whole (expression whole n) (rest.length + 2) live (.name name :: .sign s :: rest)
  | n + 1, live, text => choice whole (expression whole n) (text.length + 1) live text

/-- The value of an expression. -/
def evaluate (text : Octets) : Sh Int := do
  match ← expression text (text.length + 1) true (lexemes text.length text) with
  | (n, []) => return n
  | _ => complain text "expecting EOF"

end Arithmetic

end Enquiry.Shell
