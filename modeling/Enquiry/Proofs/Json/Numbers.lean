import Mathlib.Data.List.TakeWhile
import Enquiry.Proofs.Json.Scalars

/-!
# Numbers there and back

A number is *legible* when its text, alone, is read as its numeral and the numeral means it
(`Numeric.Legible`).  It is read in the same way in front of what may follow a value
(`readNumeral?_append`), so it is legible inside of a longer text too.

An integer is read as its numeral (`readNumeral?_integer`), so integers of 64 bits are legible
(`Numeric.Legible.integer`).  Numbers of double precision need not be, since they are rounded more
than once when they are read.
-/

namespace Enquiry.Json

open Text Number

/-! ### Numerals at the front of a text -/

/-- The text ends a number: it is empty or begins with what may follow a value. -/
def Closes (rest : List Char) : Prop := ∀ c ∈ rest.head?, c = ',' ∨ c = ']' ∨ c = '\x7d'

theorem closes_nil : Closes [] := fun _ h => by cases h

theorem closes_cons {c : Char} {rest : List Char} (h : c = ',' ∨ c = ']' ∨ c = '\x7d') :
    Closes (c :: rest) := fun _ same => Option.some.inj same ▸ h

namespace Written

variable {text left rest : List Char} {ds : List Nat}

theorem readDigits_of_closes (closes : Closes rest) : readDigits rest = ([], rest) := by
  cases rest with
  | nil => rfl
  | cons c rest =>
      have other : isAsciiDigit c = false := by
        rcases closes c rfl with rfl | rfl | rfl <;> decide
      simp [readDigits, other]

/-- Neither a fraction nor an exponent follows. -/
theorem readFraction?_of_closes (closes : Closes rest) :
    readFraction? rest = some (none, rest) := by
  cases rest with
  | nil => rfl
  | cons c rest => rcases closes c rfl with rfl | rfl | rfl <;> rfl

theorem readPower?_of_closes (closes : Closes rest) : readPower? rest = some (none, rest) := by
  cases rest with
  | nil => rfl
  | cons c rest => rcases closes c rfl with rfl | rfl | rfl <;> rfl

theorem readDigits_append (closes : Closes rest) (read : readDigits text = (ds, left)) :
    readDigits (text ++ rest) = (ds, left ++ rest) := by
  induction text generalizing ds with
  | nil =>
      cases read
      exact readDigits_of_closes closes
  | cons c text ih =>
      cases digit : isAsciiDigit c with
      | false =>
          simp only [readDigits, digit, Bool.false_eq_true, not_false_eq_true,
            List.takeWhile_cons_of_neg, List.dropWhile_cons_of_neg, List.cons_append] at read ⊢
          cases read
          rfl
      | true =>
          have inner := @ih (readDigits text).1
          simp only [readDigits, digit, List.takeWhile_cons_of_pos, List.dropWhile_cons_of_pos,
            List.cons_append, List.filterMap_cons, Prod.mk.injEq] at read inner ⊢
          obtain ⟨rfl, same⟩ := read
          obtain ⟨digits, others⟩ := inner ⟨trivial, same⟩
          rw [digits, others]
          exact ⟨rfl, rfl⟩

theorem readDigits?_append (closes : Closes rest) (read : readDigits? text = some (ds, left)) :
    readDigits? (text ++ rest) = some (ds, left ++ rest) := by
  obtain ⟨digits, after, front⟩ : ∃ digits after, readDigits text = (digits, after) := ⟨_, _, rfl⟩
  rw [readDigits?, front] at read
  rw [readDigits?, readDigits_append closes front]
  cases digits with
  | nil => cases read
  | cons =>
      cases read
      rfl

theorem readWhole?_append (closes : Closes rest) (read : readWhole? text = some (ds, left)) :
    readWhole? (text ++ rest) = some (ds, left ++ rest) := by
  obtain ⟨digits, after, front⟩ : ∃ digits after, readDigits text = (digits, after) := ⟨_, _, rfl⟩
  rw [readWhole?, front] at read
  rw [readWhole?, readDigits_append closes front]
  cases digits with
  | nil => cases read
  | cons d digits =>
      -- no zero leads others
      cases d <;> cases digits <;> cases read <;> rfl

theorem readFraction?_cons_of_ne {c : Char} (noPoint : c ≠ '.') (text : List Char) :
    readFraction? (c :: text) = some (none, c :: text) := by
  simp [readFraction?, noPoint]

theorem readFraction?_append {fraction : Option (List Nat)} (closes : Closes rest)
    (read : readFraction? text = some (fraction, left)) :
    readFraction? (text ++ rest) = some (fraction, left ++ rest) := by
  cases text with
  | nil =>
      cases read
      exact readFraction?_of_closes closes
  | cons c text =>
      by_cases point : c = '.'
      · subst point
        obtain ⟨⟨ds, after⟩, digits, same⟩ := Option.map_eq_some_iff.mp read
        cases same
        rw [List.cons_append, readFraction?, readDigits?_append closes digits]
        rfl
      · rw [readFraction?_cons_of_ne point] at read
        cases read
        rw [List.cons_append, readFraction?_cons_of_ne point]

theorem readSign_append (some : text ≠ []) (rest : List Char) :
    readSign (text ++ rest) = ((readSign text).1, (readSign text).2 ++ rest) := by
  cases text with
  | nil => exact absurd rfl some
  | cons c text =>
      by_cases minus : c = '-'
      · subst minus
        rfl
      · by_cases plus : c = '+'
        · subst plus
          rfl
        · simp [readSign, minus, plus]

theorem readPower?_append {power : Option (Bool × List Nat)} (closes : Closes rest)
    (read : readPower? text = some (power, left)) :
    readPower? (text ++ rest) = some (power, left ++ rest) := by
  cases text with
  | nil =>
      cases read
      exact readPower?_of_closes closes
  | cons c text =>
      rw [readPower?] at read
      rw [List.cons_append, readPower?]
      split at read
      next mark =>
          obtain ⟨⟨ds, after⟩, digits, same⟩ := Option.map_eq_some_iff.mp read
          cases same
          have some : text ≠ [] := by
            rintro rfl
            cases digits
          rw [if_pos mark, readSign_append some, readDigits?_append closes digits]
          rfl
      next noMark =>
          cases read
          rw [if_neg noMark, List.cons_append]

/-- What follows the sign of a number. -/
def readUnsigned? (negative : Bool) (text : List Char) : Option (Numeral × List Char) := do
  let (whole, text) ← readWhole? text
  let (fraction, text) ← readFraction? text
  let (power, text) ← readPower? text
  some (⟨negative, whole, fraction, power⟩, text)

theorem readNumeral?_cons_of_ne {c : Char} (unsigned : c ≠ '-') (text : List Char) :
    readNumeral? (c :: text) = readUnsigned? false (c :: text) := by
  simp [readNumeral?, readUnsigned?, unsigned]

theorem readUnsigned?_append {negative : Bool} {n : Numeral} (closes : Closes rest)
    (read : readUnsigned? negative text = some (n, left)) :
    readUnsigned? negative (text ++ rest) = some (n, left ++ rest) := by
  obtain ⟨⟨whole, text₁⟩, digits, read⟩ := Option.bind_eq_some_iff.mp read
  obtain ⟨⟨fraction, text₂⟩, places, read⟩ := Option.bind_eq_some_iff.mp read
  obtain ⟨⟨power, text₃⟩, exponent, read⟩ := Option.bind_eq_some_iff.mp read
  cases read
  simp [readUnsigned?, readWhole?_append closes digits, readFraction?_append closes places,
    readPower?_append closes exponent]

/-- **A number is read in the same way** in front of what may follow a value. -/
theorem readNumeral?_append {n : Numeral} (closes : Closes rest)
    (read : readNumeral? text = some (n, left)) :
    readNumeral? (text ++ rest) = some (n, left ++ rest) := by
  cases text with
  | nil => cases read
  | cons c text =>
      by_cases minus : c = '-'
      · subst minus
        have unsigned : readUnsigned? true text = some (n, left) := read
        exact readUnsigned?_append closes unsigned
      · rw [readNumeral?_cons_of_ne minus] at read
        have unsigned := readUnsigned?_append closes read
        rw [List.cons_append] at unsigned ⊢
        rw [readNumeral?_cons_of_ne minus, unsigned]

/-! ### The numeral of an integer -/

theorem readDigits_decimal (n : Nat) : readDigits (decimal n) = (digits n, []) := by
  have all : ∀ c ∈ decimal n, isAsciiDigit c = true := fun _ => isAsciiDigit_of_mem_decimal
  rw [readDigits, List.takeWhile_eq_self_iff.mpr all, List.dropWhile_eq_nil_iff.mpr all]
  rfl

theorem readWhole?_decimal (n : Nat) : readWhole? (decimal n) = some (digits n, []) := by
  rw [readWhole?, readDigits_decimal n]
  split
  next none => exact absurd (congrArg Prod.fst none) (digits_ne_nil n)
  next leading => exact absurd (congrArg Prod.fst leading) (digits_ne_zero_cons n _ _)
  next => rfl

theorem readUnsigned?_decimal (negative : Bool) (n : Nat) :
    readUnsigned? negative (decimal n) = some (⟨negative, digits n, none, none⟩, []) := by
  rw [readUnsigned?, readWhole?_decimal]
  rfl

/-- **An integer is read as its numeral.** -/
theorem readNumeral?_integer (n : Int) :
    readNumeral? (Numeric.integer n).chars = some (numeralOf n, []) := by
  rw [Numeric.chars, withMinus, numeralOf]
  by_cases negative : n < 0
  · rw [decide_eq_true negative, if_pos rfl]
    exact readUnsigned?_decimal true n.natAbs
  · obtain ⟨c, cs, first, digit⟩ := exists_decimal_eq_cons n.natAbs
    have unsigned : c ≠ '-' := by
      rintro rfl
      exact absurd digit (by decide)
    have read := readUnsigned?_decimal false n.natAbs
    rw [first] at read
    rw [decide_eq_false negative, if_neg Bool.false_ne_true, first,
      readNumeral?_cons_of_ne unsigned, read]

end Written

/-! ### The first character of a number -/

/-- The character begins a number. -/
def StartsNumber (c : Char) : Prop := isAsciiDigit c = true ∨ c = '-'

theorem Written.exists_eq_cons_of_readNumeral? {text left : List Char} {n : Numeral}
    (read : readNumeral? text = some (n, left)) : ∃ c cs, text = c :: cs ∧ StartsNumber c := by
  cases text with
  | nil => cases read
  | cons c text =>
      refine ⟨c, text, rfl, ?_⟩
      by_cases minus : c = '-'
      · exact .inr minus
      · rw [readNumeral?_cons_of_ne minus] at read
        obtain ⟨⟨whole, after⟩, digits, -⟩ := Option.bind_eq_some_iff.mp read
        cases digit : isAsciiDigit c with
        | true => exact .inl digit
        | false => simp [readWhole?, readDigits, digit] at digits

/-! ### Legible numbers -/

/-- The numeral that a number is written as. -/
def Numeric.numeral : Numeric → Numeral
  | .integer n => numeralOf n
  | .real x => ((Written.readNumeral? x.general).map Prod.fst).getD (numeralOf 0)

/-- The text of a number is read as its numeral, which means the number. -/
structure Numeric.Legible (n : Numeric) : Prop where
  read : Written.readNumeral? n.chars = some (n.numeral, [])
  value : n.numeral.value? = some n

instance (n : Numeric) : Decidable n.Legible :=
  decidable_of_iff
    (Written.readNumeral? n.chars = some (n.numeral, []) ∧ n.numeral.value? = some n)
    ⟨fun ⟨read, value⟩ => ⟨read, value⟩, fun ⟨read, value⟩ => ⟨read, value⟩⟩

namespace Numeric.Legible

theorem integer {n : Int} (fits : FitsWord n) : (Numeric.integer n).Legible :=
  ⟨Written.readNumeral?_integer n, value?_numeralOf fits⟩

end Numeric.Legible

end Enquiry.Json
