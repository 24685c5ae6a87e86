/-!
# Numbers of double precision

A finite number of double precision is a sign and a magnitude `significand · 2 ^ exponent` with a
significand below `2 ^ 53` and an exponent between -1074 and 971. Results of arithmetic are exact
quotients, rounded to the nearest such number, a tie to the even significand; a quotient too large
to round to any has no result.
-/

namespace Enquiry.Number

/-- The quotient of two natural numbers, rounded to the nearest whole one; a tie goes to the even
neighbour. -/
def roundQuotient (num den : Nat) : Nat :=
  let q := num / den
  let r := num % den
  if 2 * r < den ∨ (2 * r = den ∧ q % 2 = 0) then q else q + 1

/-- `m · 2 ^ e` as numerator and denominator. -/
def scaled (m : Nat) (e : Int) : Nat × Nat := (m * Nat.pow 2 e.toNat, Nat.pow 2 (-e).toNat)

/-- A finite number of double precision. -/
structure Binary64 where
  negative : Bool
  significand : Nat
  exponent : Int
  deriving DecidableEq, Repr

namespace Binary64

def minExponent : Int := -1074

def maxExponent : Int := 971

def zero : Binary64 := ⟨false, 0, minExponent⟩

def isZero (x : Binary64) : Bool := x.significand == 0

/-- The numerator and the denominator of the magnitude. -/
def ratio (x : Binary64) : Nat × Nat := scaled x.significand x.exponent

/-- The exponent at which a positive quotient has a significand of 53 bits, unless it is too small
to have that many. -/
def exponentFor (num den : Nat) : Int :=
  let e : Int := (num.log2 : Int) - (den.log2 : Int)
  let (p, q) := scaled den e
  let e := if p ≤ num * q then e - 52 else e - 53
  max e minExponent

/-- The number nearest to a quotient, if there is a finite one. -/
def ofRatio? (num den : Nat) : Option Binary64 :=
  if num = 0 then some zero
  else
    let e := exponentFor num den
    let (p, q) := scaled den e
    let m := roundQuotient (num * q) p
    let (m, e) := if m = Nat.pow 2 53 then (Nat.pow 2 52, e + 1) else (m, e)
    if maxExponent < e then none
    else if m = 0 then some zero
    else some ⟨false, m, e⟩

/-- The number nearest to a natural number. -/
def ofNat? (n : Nat) : Option Binary64 := ofRatio? n 1

/-- A number with the sign of its magnitude replaced. -/
def withSign (negative : Bool) (x : Binary64) : Binary64 := { x with negative := negative }

/-- The number nearest to an integer. -/
def ofInt? (n : Int) : Option Binary64 := (ofNat? n.natAbs).map (withSign (n < 0))

/-- The product of two magnitudes. -/
def mul? (x y : Binary64) : Option Binary64 :=
  let (a, b) := x.ratio
  let (c, d) := y.ratio
  ofRatio? (a * c) (b * d)

/-- The quotient of two magnitudes, the second of them positive. -/
def div? (x y : Binary64) : Option Binary64 :=
  let (a, b) := x.ratio
  let (c, d) := y.ratio
  ofRatio? (a * d) (b * c)

/-- The sum of two magnitudes. -/
def add? (x y : Binary64) : Option Binary64 :=
  let (a, b) := x.ratio
  let (c, d) := y.ratio
  ofRatio? (a * d + c * b) (b * d)

/-- The power of ten nearest to `10 ^ n`. -/
def powerOfTen? (n : Nat) : Option Binary64 := ofNat? (Nat.pow 10 n)

end Binary64

end Enquiry.Number
