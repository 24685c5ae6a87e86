import Enquiry.Text.Digit

/-!
# Layout of values

How a value is written in a field of some width: on which side it stands, what fills the field, and
how its sign and its digits are written.
-/

namespace Enquiry.Text

structure Layout where
  /-- The value stands at the left. -/
  left : Bool
  /-- Numbers that are not negative have a plus sign. -/
  plus : Bool
  /-- Numbers that are not negative have a blank in front. -/
  blank : Bool
  /-- The base is shown, and zeros behind a point are. -/
  alternate : Bool
  /-- Zeros fill the field. -/
  zero : Bool
  width : Nat
  precision : Option Nat
  deriving DecidableEq, Repr

namespace Layout

def plain : Layout := ⟨false, false, false, false, false, 0, none⟩

/-- The layout with a flag set. -/
def withFlag (l : Layout) (c : Char) : Layout :=
  if c = '-' then { l with left := true }
  else if c = '+' then { l with plus := true }
  else if c = ' ' then { l with blank := true }
  else if c = '#' then { l with alternate := true }
  else { l with zero := true }

def isFlag (c : Char) : Bool := "#-+ 0".toList.contains c

/-- The layout with a width that may be negative: then the value stands at the left. -/
def withWidth (l : Layout) (n : Int) : Layout :=
  if n < 0 then { l with left := true, width := n.natAbs } else { l with width := n.natAbs }

/-- The layout with a precision; a negative one is none. -/
def withPrecision (l : Layout) (n : Int) : Layout :=
  { l with precision := if n < 0 then none else some n.natAbs }

/-- Fills the field around a text. -/
def pad (l : Layout) (text : List Char) : List Char :=
  let blank := List.replicate (l.width - text.length) ' '
  if l.left then text ++ blank else blank ++ text

/-- A text, of which only so many characters are written as the precision says. -/
def text (l : Layout) (value : List Char) : List Char :=
  l.pad (match l.precision with
    | some n => value.take n
    | none => value)

/-- What stands in front of a number. -/
def sign (l : Layout) (negative : Bool) : List Char :=
  if negative then ['-'] else if l.plus then ['+'] else if l.blank then [' '] else []

/-- Fills the field around a number whose beginning is not filled up. -/
def number (l : Layout) (zeros : Bool) (front digits : List Char) : List Char :=
  if zeros && !l.left then
    front ++ List.replicate (l.width - front.length - digits.length) '0' ++ digits
  else l.pad (front ++ digits)

/-- Digits with the zeros that the precision asks for. -/
def padDigits (l : Layout) (digits : List Char) : List Char :=
  match l.precision with
  | some 0 => if digits = ['0'] then [] else digits
  | some n => List.replicate (n - digits.length) '0' ++ digits
  | none => digits

/-- A whole number in decimal. -/
def integer (l : Layout) (n : Int) : List Char :=
  l.number (l.zero && l.precision.isNone) (l.sign (n < 0)) (l.padDigits (decimal n.natAbs))

/-- A natural number in the base that a letter stands for. -/
def natural (l : Layout) (letter : Char) (n : Nat) : List Char :=
  let zeros := l.zero && l.precision.isNone
  if letter = 'o' then
    let digits := l.padDigits (Nat.toDigits 8 n)
    l.number zeros [] (if l.alternate && digits.head? != some '0' then '0' :: digits else digits)
  else if letter = 'x' ∨ letter = 'X' then
    let digits := l.padDigits (Nat.toDigits 16 n)
    let front := if l.alternate && n != 0 then ['0', 'x'] else []
    let written := l.number zeros front digits
    if letter = 'X' then written.map Char.toUpper else written
  else l.number zeros [] (l.padDigits (decimal n))

end Layout

end Enquiry.Text
