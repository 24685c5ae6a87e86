/-!
# Numbers of 64 bits

The bounds of the numbers that 64 bits hold, without and with a sign, and sums that are checked
against them.
-/

namespace Enquiry.Number

/-- The first number that 64 bits without a sign do not hold: two to the 64. -/
def wordBound : Nat := 18446744073709551616

/-- The first number that 64 bits with a sign do not hold: two to the 63. Its negative is the last
one below zero that they do hold. -/
def signedWordBound : Nat := 9223372036854775808

/-- The sum of two numbers of 64 bits, if 64 bits hold it. -/
def addWords? (a b : UInt64) : Option UInt64 :=
  if a.toNat + b.toNat < wordBound then some (a + b) else none

end Enquiry.Number
