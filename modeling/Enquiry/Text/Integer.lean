import Enquiry.Number.Word
import Enquiry.Text.Digit

/-!
# Integers at the front of a text

`Integer.read` reads the longest integer that a text begins with: blanks, a sign and digits. With no
base given, a zero in front of the digits stands for base eight, and `0x` for base sixteen. A value
that no signed word holds becomes the nearest one that a signed word does hold.
-/

namespace Enquiry.Text

/-- A blank or a line break of ASCII. -/
def isGap (c : Char) : Bool := c == ' ' || (9 ≤ c.toNat && c.toNat ≤ 13)

/-- The value of a digit or a letter that stands for one. -/
def digitOf? (c : Char) : Option Nat :=
  if '0' ≤ c ∧ c ≤ '9' then some (c.toNat - '0'.toNat)
  else if 'a' ≤ c ∧ c ≤ 'z' then some (c.toNat - 'a'.toNat + 10)
  else if 'A' ≤ c ∧ c ≤ 'Z' then some (c.toNat - 'A'.toNat + 10)
  else none

def isDigitOf (base : Nat) (c : Char) : Bool := (digitOf? c).any (· < base)

/-- The value of some digits. -/
def digitsValue (base : Nat) (digits : List Char) : Nat :=
  digits.foldl (fun n c => base * n + (digitOf? c).getD 0) 0

/-- The base of the digits at the front of a text, and the text from its digits on. -/
def splitBase (base : Option Nat) (text : List Char) : Nat × List Char :=
  match base, text with
  | some 16, '0' :: x :: d :: rest =>
      if (x == 'x' || x == 'X') && isDigitOf 16 d then (16, d :: rest) else (16, '0' :: x :: d :: rest)
  | some b, text => (b, text)
  | none, '0' :: x :: d :: rest =>
      if (x == 'x' || x == 'X') && isDigitOf 16 d then (16, d :: rest) else (8, '0' :: x :: d :: rest)
  | none, '0' :: rest => (8, '0' :: rest)
  | none, text => (10, text)

structure Integer where
  value : Int
  /-- No signed word holds the value. -/
  overflows : Bool
  /-- What follows the integer. -/
  rest : List Char

namespace Integer

/-- The value that a signed word holds and that is nearest. -/
def clamp (n : Int) : Int :=
  max (-(Number.signedWordBound : Int)) (min n (Number.signedWordBound - 1))

/-- The value that a word of as many bits holds in the place of an integer. -/
def wrap (n : Int) : Int := Int.bmod n Number.wordBound

/-- The integer that a text begins with. -/
def read? (base : Option Nat) (text : List Char) : Option Integer :=
  let text := text.dropWhile isGap
  let (negative, text) := match text with
    | '-' :: rest => (true, rest)
    | '+' :: rest => (false, rest)
    | text => (false, text)
  let (base, text) := splitBase base text
  let digits := text.takeWhile (isDigitOf base)
  if digits.isEmpty then none
  else
    let n : Int := digitsValue base digits
    let n := if negative then -n else n
    some ⟨clamp n, clamp n != n, text.drop digits.length⟩

/-- The value of a text that is an integer with nothing but blanks around it. -/
def whole? (base : Option Nat) (text : List Char) : Option Int :=
  match read? base text with
  | some ⟨n, false, rest⟩ => if rest.all isGap then some n else none
  | _ => none

end Integer

end Enquiry.Text
