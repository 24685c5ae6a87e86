import Enquiry.Number.Binary64
import Enquiry.Text.Integer
import Enquiry.Text.Layout

/-!
# Numbers of double precision with infinities

Besides the finite numbers there are two infinities and what is no number. Texts are read into the
nearest number, and numbers are written in the three usual notations: with a fixed number of places
behind the point, with an exponent, and in the shorter of these two ways. What is written is the
exact value, rounded to the nearest; a tie goes to the even digit.
-/

namespace Enquiry.Number

open Text

inductive Extended where
  | finite (x : Binary64)
  | infinite (negative : Bool)
  | undefined (negative : Bool)
  deriving DecidableEq, Repr

namespace Extended

def zero : Extended := .finite .zero

/-! ### Words of bits -/

/-- The number that a word of bits stands for. -/
def ofFloat (f : Float) : Extended :=
  let bits := f.toBits.toNat
  let negative := bits / Nat.pow 2 63 == 1
  let exponent := bits / Nat.pow 2 52 % 2048
  let fraction := bits % Nat.pow 2 52
  if exponent = 2047 then if fraction = 0 then .infinite negative else .undefined negative
  else if exponent = 0 then .finite ⟨negative, fraction, Binary64.minExponent⟩
  else .finite ⟨negative, fraction + Nat.pow 2 52, (exponent : Int) - 1075⟩

/-- The word of bits of a number. -/
def toFloat (x : Extended) : Float :=
  let word (negative : Bool) (exponent fraction : Nat) : Float :=
    Float.ofBits (UInt64.ofNat
      ((if negative then Nat.pow 2 63 else 0) + exponent * Nat.pow 2 52 + fraction))
  match x with
  | .infinite negative => word negative 2047 0
  | .undefined negative => word negative 2047 (Nat.pow 2 51)
  | .finite x =>
      if x.significand < Nat.pow 2 52 then word x.negative 0 x.significand
      else word x.negative (x.exponent + 1075).toNat (x.significand - Nat.pow 2 52)

/-! ### Reading -/

/-- The number nearest to a quotient. -/
def ofRatio (negative : Bool) (num den : Nat) : Extended :=
  match Binary64.ofRatio? num den with
  | some x => .finite (x.withSign negative)
  | none => .infinite negative

/-- The largest power of ten that makes a difference. -/
def maxPower : Int := 100000

/-- The number nearest to `digits · 10 ^ power`. -/
def ofDecimal (negative : Bool) (digits : Nat) (power : Int) : Extended :=
  if digits = 0 then .finite (Binary64.zero.withSign negative)
  else
    let power := max (-maxPower) (min maxPower power)
    ofRatio negative (digits * Nat.pow 10 power.toNat) (Nat.pow 10 (-power).toNat)

/-- The exponent at the front of a text, and what follows it. -/
def readPower (marks : List Char) (text : List Char) : Int × List Char :=
  match text with
  | c :: rest =>
      if !marks.contains c then (0, text)
      else
        let (negative, digits) := match rest with
          | '-' :: more => (true, more)
          | '+' :: more => (false, more)
          | more => (false, more)
        let found := digits.takeWhile isAsciiDigit
        if found.isEmpty then (0, text)
        else
          let n : Int := digitsValue 10 found
          (if negative then -n else n, digits.drop found.length)
  | [] => (0, [])

/-- The words for what is no finite number. -/
def named? (negative : Bool) (text : List Char) : Option (Extended × List Char) :=
  let begins (name : String) := (text.take name.length).map Char.toLower == name.toList
  if begins "infinity" then some (.infinite negative, text.drop 8)
  else if begins "inf" then some (.infinite negative, text.drop 3)
  else if begins "nan" then some (.undefined negative, text.drop 3)
  else none

/-- The number that a text begins with, and what follows it. -/
def read? (text : List Char) : Option (Extended × List Char) :=
  let text := text.dropWhile isGap
  let (negative, text) := match text with
    | '-' :: rest => (true, rest)
    | '+' :: rest => (false, rest)
    | text => (false, text)
  let points (base : Nat) (text : List Char) : List Char × List Char × List Char :=
    let whole := text.takeWhile (isDigitOf base)
    match text.drop whole.length with
    | '.' :: rest =>
        let places := rest.takeWhile (isDigitOf base)
        (whole, places, rest.drop places.length)
    | rest => (whole, [], rest)
  let hex := match text with
    | '0' :: x :: rest => if x = 'x' ∨ x = 'X' then some rest else none
    | _ => none
  let found? := match hex with
    | none => none
    | some rest =>
        let (whole, places, rest) := points 16 rest
        if whole.isEmpty && places.isEmpty then none
        else
          let (power, rest) := readPower ['p', 'P'] rest
          let power := max (-maxPower) (min maxPower power) - 4 * places.length
          let digits := digitsValue 16 (whole ++ places)
          some (ofRatio negative (digits * Nat.pow 2 power.toNat) (Nat.pow 2 (-power).toNat), rest)
  match found? with
  | some found => some found
  | none =>
      let (whole, places, rest) := points 10 text
      if whole.isEmpty && places.isEmpty then named? negative text
      else
        let (power, rest) := readPower ['e', 'E'] rest
        some (ofDecimal negative (digitsValue 10 (whole ++ places)) (power - places.length), rest)

/-! ### Writing -/

/-- The digits of a quotient with so many places behind the point. -/
def fixedDigits (alternate : Bool) (places num den : Nat) : List Char :=
  let digits := decimal (roundQuotient (num * Nat.pow 10 places) den)
  let digits := List.replicate (places + 1 - digits.length) '0' ++ digits
  let whole := digits.take (digits.length - places)
  if places = 0 then if alternate then whole ++ ['.'] else whole
  else whole ++ '.' :: digits.drop (digits.length - places)

/-- The exponent of ten of a positive quotient. -/
def powerOf (num den : Nat) : Int :=
  let guess : Int := (decimal num).length - (decimal den).length
  let reaches (e : Int) : Bool := den * Nat.pow 10 e.toNat ≤ num * Nat.pow 10 (-e).toNat
  if reaches guess then guess else guess - 1

/-- The first digits of a quotient, one more than the number of places, and its exponent. -/
def leadingDigits (places num den : Nat) : Nat × Int :=
  if num = 0 then (0, 0)
  else
    let e := powerOf num den
    let shift : Int := places - e
    let q := roundQuotient (num * Nat.pow 10 shift.toNat) (den * Nat.pow 10 (-shift).toNat)
    if q = Nat.pow 10 (places + 1) then (Nat.pow 10 places, e + 1) else (q, e)

/-- An exponent with its sign and at least two digits. -/
def powerText (e : Int) : List Char :=
  let digits := decimal e.natAbs
  (if e < 0 then '-' else '+') :: List.replicate (2 - digits.length) '0' ++ digits

/-- Digits with a point behind the first one. -/
def pointed (alternate : Bool) (digits : List Char) : List Char :=
  match digits with
  | [] => []
  | [d] => if alternate then [d, '.'] else [d]
  | d :: rest => d :: '.' :: rest

/-- Digits without the zeros at the end behind a point. -/
def dropZeros (digits : List Char) : List Char :=
  if digits.contains '.' then
    let short := (digits.reverse.dropWhile (· == '0')).reverse
    if short.getLast? = some '.' then short.dropLast else short
  else digits

def scientificDigits (alternate : Bool) (places num den : Nat) : List Char :=
  let (q, e) := leadingDigits places num den
  let digits := decimal q
  pointed alternate (List.replicate (places + 1 - digits.length) '0' ++ digits) ++
    'e' :: powerText e

/-- The shorter way of writing so many digits. -/
def generalDigits (alternate : Bool) (count num den : Nat) : List Char :=
  let count := max count 1
  let (_, e) := leadingDigits (count - 1) num den
  if e < -4 ∨ (count : Int) ≤ e then
    let all := scientificDigits alternate (count - 1) num den
    if alternate then all
    else
      let digits := all.takeWhile (· != 'e')
      dropZeros digits ++ all.drop digits.length
  else
    let all := fixedDigits alternate ((count : Int) - 1 - e).toNat num den
    if alternate then all else dropZeros all

/-- A number as a letter says: `f`, `e` or `g`, in capitals for a capital. -/
def layOut (l : Layout) (letter : Char) (x : Extended) : List Char :=
  let places := l.precision.getD 6
  let written := match x with
    | .infinite negative => l.number false (l.sign negative) "inf".toList
    | .undefined negative => l.number false (l.sign negative) "nan".toList
    | .finite x =>
        let (num, den) := x.ratio
        let digits :=
          if letter.toLower = 'f' then fixedDigits l.alternate places num den
          else if letter.toLower = 'e' then scientificDigits l.alternate places num den
          else generalDigits l.alternate places num den
        l.number l.zero (l.sign x.negative) digits
  if letter.isUpper then written.map Char.toUpper else written

end Extended

end Enquiry.Number
