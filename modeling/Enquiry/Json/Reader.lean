import Enquiry.Json.Value
import Enquiry.Json.Written
import Enquiry.Number.Word
import Enquiry.Text.Utf8

/-!
# Reading JSON

The meaning of a written JSON text. Brackets nest at most `maxLevels` deep. A surrogate counts
only as half of a pair. An integer of 64 bits, signed or unsigned, is an integer; every other
number is one of double precision, and an error when it is too large for that.

A number of double precision is not rounded once from its decimal. Its digits are read into a
significand of 64 bits until the next would not fit; the rest of them only count for the exponent.
The significand is rounded, and then multiplied or divided by a rounded power of ten.
-/

namespace Enquiry.Json

open Number

/-- How deep brackets may nest. -/
def maxLevels : Nat := 127

/-! ### Strings -/

def isHighSurrogate (n : Nat) : Bool := 0xD800 ≤ n && n ≤ 0xDBFF

def isLowSurrogate (n : Nat) : Bool := 0xDC00 ≤ n && n ≤ 0xDFFF

/-- The characters of some code points, behind those of `done` in reverse. -/
def pairedOnto? (done : List Char) : List Nat → Option (List Char)
  | [] => some done.reverse
  | high :: low :: rest =>
      if isHighSurrogate high then
        if isLowSurrogate low then
          pairedOnto? (Char.ofNat (0x10000 + 0x400 * (high - 0xD800) + (low - 0xDC00)) :: done) rest
        else none
      else if isLowSurrogate high then none
      else pairedOnto? (Char.ofNat high :: done) (low :: rest)
  | [n] =>
      if isHighSurrogate n || isLowSurrogate n then none
      else some (Char.ofNat n :: done).reverse

/-- The string of some code points, in which each pair of surrogates is one character. -/
def stringOf? (points : List Nat) : Option String := (pairedOnto? [] points).map String.ofList

/-! ### Numbers -/

/-- Reads digits behind a significand for as long as it stays below `2 ^ 64`. The second part is
what is left of the digits. -/
def accumulate (significand : Nat) : List Nat → Nat × List Nat
  | [] => (significand, [])
  | d :: ds =>
      if 10 * significand + d < wordBound then accumulate (10 * significand + d) ds
      else (significand, d :: ds)

/-- The value of a row of digits. -/
def valueOfDigits (ds : List Nat) : Nat := ds.foldl (fun n d => 10 * n + d) 0

/-- A magnitude divided by `10 ^ n`, in steps of 308 decimal places. -/
def scaleDown? (x : Binary64) (n : Nat) : Option Binary64 :=
  if n ≤ 308 then (Binary64.powerOfTen? n).bind x.div?
  else if x.isZero then some x
  else do
    let y ← (Binary64.powerOfTen? 308).bind x.div?
    scaleDown? y (n - 308)
termination_by n

/-- A magnitude multiplied by `10 ^ e`, unless that is too large. -/
def scale? (x : Binary64) (e : Int) : Option Binary64 :=
  if e < 0 then scaleDown? x e.natAbs
  else if e ≤ 308 then (Binary64.powerOfTen? e.natAbs).bind x.mul?
  else if x.isZero then some x
  else none

/-- The largest exponent that is read as it is written. -/
def maxWrittenPower : Nat := 2147483647

/-- The magnitude `significand · 10 ^ (e ± power)`. A written exponent beyond all bounds gives
zero, or an error when it would make a significand larger. -/
def magnitude? (significand : Nat) (e : Int) : Option (Bool × List Nat) → Option Binary64
  | none => (Binary64.ofNat? significand).bind (scale? · e)
  | some (minus, ds) =>
      let power := valueOfDigits ds
      if maxWrittenPower < power then
        if significand ≠ 0 ∧ minus = false then none else some .zero
      else
        (Binary64.ofNat? significand).bind (scale? · (if minus then e - power else e + power))

/-- The number that a numeral means. -/
def Numeral.value? (n : Numeral) : Option Numeric :=
  let (significand, left) := accumulate 0 n.whole
  let real (significand : Nat) (e : Int) : Option Numeric :=
    (magnitude? significand e n.power).map fun x => .real (x.withSign n.negative)
  match n.fraction, n.power with
  | none, none =>
      if left ≠ [] then real significand left.length
      else if n.negative = false then some (.integer significand)
      else if significand = 0 ∨ signedWordBound < significand then real significand 0
      else some (.integer (-significand))
  | none, some _ => real significand left.length
  | some ds, _ =>
      let (significand, unread) := accumulate significand ds
      real significand (left.length - (ds.length - unread.length : Nat))

/-! ### Values -/

mutual

/-- The value that a text means when at most `levels` brackets nest in it. -/
def Written.value? : Nat → Written → Option Value
  | _, .null => some .null
  | _, .bool b => some (.bool b)
  | _, .number n => n.value?.map .number
  | _, .string points => (stringOf? points).map .string
  | 0, .array _ => none
  | levels + 1, .array items => (valuesOf? levels items).map .array
  | 0, .object _ => none
  | levels + 1, .object members =>
      (membersOf? levels members).map fun ms => .object (membersOf ms)

def valuesOf? : Nat → List Written → Option (List Value)
  | _, [] => some []
  | levels, w :: ws =>
      match w.value? levels with
      | none => none
      | some v => (valuesOf? levels ws).map (v :: ·)

def membersOf? : Nat → List (List Nat × Written) → Option (List (String × Value))
  | _, [] => some []
  | levels, (name, w) :: ms =>
      match stringOf? name, w.value? levels with
      | some s, some v => (membersOf? levels ms).map ((s, v) :: ·)
      | _, _ => none

end

/-- The value of a JSON text. -/
def Value.read? (text : List Char) : Option Value :=
  (Written.read? maxLevels text).bind (·.value? maxLevels)

/-- The value of a JSON text in UTF-8. -/
def Value.ofBytes? (bytes : List UInt8) : Option Value :=
  (Text.Utf8.decode? bytes).bind Value.read?

/-- The value of a JSON text given as a string. -/
def Value.ofString? (s : String) : Option Value := Value.read? s.toList

end Enquiry.Json
