import Enquiry.Number.Binary64
import Enquiry.Text.Digit

/-!
# Notations of numbers

Three ways to write a number of double precision: `general` with the fewest digits, in positional
notation where the decimal exponent lies between -5 and 15 and with an exponent elsewhere;
`positional` with the fewest digits and never an exponent; `fixed` with a given number of places,
rounded from the exact value, a tie to even.
-/

namespace Enquiry.Number

open Text

/-! ### Shortest decimals

Every real number close enough to a number of double precision rounds to it. `Interval.around`
gives the bounds of those reals; the bounds themselves belong to them when the significand is
even. `shortest` gives the decimal `digits · 10 ^ exponent` in that interval with the fewest
digits, and among those the nearest; a tie goes to even digits.
-/

/-- The decimal `digits · 10 ^ exponent`. -/
structure Decimal where
  digits : Nat
  exponent : Int
  deriving DecidableEq, Repr

/-- The reals from `low / den` to `high / den` around `value / den`; with `closed` the bounds are
among them. -/
structure Interval where
  low : Nat
  value : Nat
  high : Nat
  den : Nat
  closed : Bool

/-- The reals that round to a positive magnitude. Below a power of two the neighbours lie twice as
close. -/
def Interval.around (x : Binary64) : Interval :=
  let m := x.significand
  let (scale, den) := scaled 1 (x.exponent - 2)
  let below := if m = Nat.pow 2 52 ∧ Binary64.minExponent < x.exponent then 1 else 2
  ⟨(4 * m - below) * scale, 4 * m * scale, (4 * m + 2) * scale, den, m % 2 == 0⟩

/-- The interval holds `num / den`. -/
def Interval.holds (i : Interval) (num den : Nat) : Bool :=
  if i.closed then i.low * den ≤ num * i.den && num * i.den ≤ i.high * den
  else i.low * den < num * i.den && num * i.den < i.high * den

/-- `10 ^ e` as numerator and denominator. -/
def tenTo (e : Int) : Nat × Nat := (Nat.pow 10 e.toNat, Nat.pow 10 (-e).toNat)

/-- The value of the interval has `e + 1` digits in front of the point. -/
def Interval.reaches (i : Interval) (e : Int) : Bool :=
  let (p, q) := tenTo e
  p * i.den ≤ i.value * q

/-- The decimal exponent of the value: an estimate from its bits, which is at most one too low,
put right. -/
def Interval.magnitude (i : Interval) : Int :=
  let bits : Int := (i.value.log2 : Int) - (i.den.log2 : Int) - 1
  let guess := bits * 30103 / 100000
  if i.reaches (guess + 1) then guess + 1 else if i.reaches guess then guess else guess - 1

/-- The best decimal on the grid of the multiples of `10 ^ e`, if one lies in the interval. -/
def Interval.onGrid? (i : Interval) (e : Int) : Option Decimal :=
  let (p, q) := tenTo e
  let below := i.value * q / (i.den * p)
  let above := below + 1
  let toBelow := i.value * q - below * (i.den * p)
  let toAbove := above * (i.den * p) - i.value * q
  match i.holds (below * p) q, i.holds (above * p) q with
  | false, false => none
  | true, false => some ⟨below, e⟩
  | false, true => some ⟨above, e⟩
  | true, true =>
      if toBelow < toAbove ∨ (toBelow = toAbove ∧ below % 2 = 0) then some ⟨below, e⟩
      else some ⟨above, e⟩

/-- The shortest decimal of a positive magnitude. Seventeen digits are always enough. -/
def shortest (x : Binary64) : Decimal :=
  let i := Interval.around x
  let top := i.magnitude
  ((List.range 17).findSome? fun n : Nat => i.onGrid? (top - n)).getD ⟨0, 0⟩

/-! ### Writing numbers -/

/-- Digits without the zeros at their end. -/
def significantDigits (digits : Nat) : List Char :=
  let text := decimal digits
  (text.reverse.dropWhile (· == '0')).reverse

/-- Digits and the place of the point: it stands behind the first `point` of them. -/
structure Placed where
  digits : List Char
  point : Int

/-- The digits of a decimal, without zeros at either end. -/
def Decimal.placed (d : Decimal) : Placed :=
  ⟨significantDigits d.digits, (decimal d.digits).length + d.exponent⟩

def zeros (n : Int) : List Char := List.replicate n.toNat '0'

/-- Positional notation: `whole` is put behind a number without places. -/
def Placed.positional (whole : List Char) (p : Placed) : List Char :=
  let n : Int := p.digits.length
  if n ≤ p.point then p.digits ++ zeros (p.point - n) ++ whole
  else if 0 < p.point then
    p.digits.take p.point.toNat ++ '.' :: p.digits.drop p.point.toNat
  else '0' :: '.' :: zeros (-p.point) ++ p.digits

/-- An integer with its sign. -/
def signed (n : Int) : List Char :=
  (if n < 0 then '-' else '+') :: decimal n.natAbs

/-- Notation with an exponent, whose sign is written unless it is that of a fraction. -/
def Placed.scientific (p : Placed) : List Char :=
  let power := p.point - 1
  (match p.digits with
    | [] => ['0']
    | [d] => [d]
    | d :: ds => d :: '.' :: ds) ++ 'e' :: signed power

/-- The decimal exponents that are written in positional notation. -/
def isPlain (power : Int) : Bool := -5 ≤ power && power ≤ 15

/-- A minus sign in front of a negative number. -/
def withMinus (negative : Bool) (text : List Char) : List Char :=
  if negative then '-' :: text else text

/-- The fewest digits that read back, `.0` behind whole numbers. -/
def Binary64.general (x : Binary64) : List Char :=
  withMinus x.negative <|
    if x.isZero then "0.0".toList
    else
      let p := (shortest x).placed
      if isPlain (p.point - 1) then p.positional ".0".toList else p.scientific

/-- The fewest digits that read back, without an exponent and with nothing behind whole
numbers. -/
def Binary64.positional (x : Binary64) : List Char :=
  withMinus x.negative <|
    if x.isZero then ['0'] else (shortest x).placed.positional []

/-- A quotient with one decimal place, rounded to nearest, a tie to the even digit. -/
def oneDecimal (num den : Nat) : List Char :=
  let tenths := roundQuotient (10 * num) den
  decimal (tenths / 10) ++ '.' :: decimal (tenths % 10)

/-- The number with one decimal place. -/
def Binary64.oneDecimal (x : Binary64) : List Char :=
  withMinus x.negative (Number.oneDecimal x.ratio.1 x.ratio.2)

end Enquiry.Number
