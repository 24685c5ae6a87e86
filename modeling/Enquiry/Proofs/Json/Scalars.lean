import Enquiry.Json.Printer
import Enquiry.Json.Reader
import Enquiry.Proofs.Text.Digits
import Enquiry.Proofs.Text.Utf8

/-!
# Strings and integers there and back

A string in quotes is read up to its closing quote, whatever follows (`readString?_quote`), and the
code points that are read are those of the string, none of them half of a pair
(`stringOf?_map_toNat`).  The numeral of an integer means the integer as long as 64 bits hold it
(`value?_numeralOf`).
-/

namespace Enquiry.Json

open Text Number

/-! ### Strings -/

namespace Written

/-- Four hexadecimal digits of which the first two are zeros. -/
theorem hex4?_hexChar {n : Nat} (h : n < 0x100) :
    hex4? '0' '0' (hexChar (n / 16)) (hexChar (n % 16)) = some n := by
  have high : hexValue? (hexChar (n / 16)) = some (n / 16) := hexValue?_hexChar (by omega)
  have low : hexValue? (hexChar (n % 16)) = some (n % 16) := hexValue?_hexChar (by omega)
  have zero : hexValue? '0' = some 0 := rfl
  have joined : 0x10 * (n / 16) + n % 16 = n := by omega
  simp [hex4?, high, low, zero, joined]

/-- The written form of a character is read as its code point. -/
theorem readString?_escapeChar (done : List Nat) (c : Char) (rest : List Char) :
    readString? done (escapeChar c ++ rest) = readString? (c.toNat :: done) rest := by
  unfold escapeChar
  split
  next quote => subst quote; simp [readString?, simpleEscape?]
  next notQuote =>
  split
  next backslash => subst backslash; simp [readString?, simpleEscape?]
  next notBackslash =>
  split
  next plain =>
      have shown : ¬ (c = '\\' ∨ c.toNat < 0x20) := by simp [notBackslash]; omega
      rw [List.singleton_append, readString?, if_neg shown] <;> simp_all
  next control =>
  split
  next code => simp [readString?, simpleEscape?, code]
  next =>
  split
  next code => simp [readString?, simpleEscape?, code]
  next =>
  split
  next code => simp [readString?, simpleEscape?, code]
  next =>
  split
  next code => simp [readString?, simpleEscape?, code]
  next =>
  split
  next code => simp [readString?, simpleEscape?, code]
  next =>
      have code := hex4?_hexChar (n := c.toNat) (by omega)
      simp [unicodeEscape, readString?, code]

/-- **A string is read up to its closing quote**, as its code points. -/
theorem readString?_quote (done : List Nat) (text rest : List Char) :
    readString? done (text.flatMap escapeChar ++ '"' :: rest) =
      some (done.reverse ++ text.map Char.toNat, rest) := by
  induction text generalizing done with
  | nil => simp [readString?]
  | cons c text ih =>
      rw [List.flatMap_cons, List.append_assoc, readString?_escapeChar, ih]
      simp

end Written

theorem isHighSurrogate_toNat (c : Char) : isHighSurrogate c.toNat = false := by
  have valid := Utf8.toNat_valid c
  rw [isHighSurrogate, Bool.and_eq_false_iff, decide_eq_false_iff_not, decide_eq_false_iff_not]
  omega

theorem isLowSurrogate_toNat (c : Char) : isLowSurrogate c.toNat = false := by
  have valid := Utf8.toNat_valid c
  rw [isLowSurrogate, Bool.and_eq_false_iff, decide_eq_false_iff_not, decide_eq_false_iff_not]
  omega

/-- The code points of characters are no surrogates, and each is its own character. -/
theorem pairedOnto?_map_toNat (done text : List Char) :
    pairedOnto? done (text.map Char.toNat) = some (done.reverse ++ text) := by
  induction text generalizing done with
  | nil => simp [pairedOnto?]
  | cons c text ih =>
      cases text with
      | nil =>
          simp [pairedOnto?, isHighSurrogate_toNat, isLowSurrogate_toNat]
      | cons d text =>
          have onward := ih (c :: done)
          rw [List.map_cons] at onward
          rw [List.map_cons, List.map_cons, pairedOnto?, Char.ofNat_toNat, onward]
          simp [isHighSurrogate_toNat, isLowSurrogate_toNat]

/-- The code points of a string mean the string. -/
theorem stringOf?_map_toNat (s : String) : stringOf? (s.toList.map Char.toNat) = some s := by
  rw [stringOf?, pairedOnto?_map_toNat]
  simp

/-! ### Integers -/

/-- The numeral of an integer. -/
def numeralOf (n : Int) : Numeral := ⟨n < 0, digits n.natAbs, none, none⟩

theorem accumulate_append {significand : Nat} {front back : List Nat} {value : Nat}
    (h : accumulate significand front = (value, [])) :
    accumulate significand (front ++ back) = accumulate value back := by
  induction front generalizing significand with
  | nil =>
      obtain rfl : significand = value := congrArg Prod.fst h
      rfl
  | cons d front ih =>
      rw [accumulate] at h
      split at h
      next fits => rw [List.cons_append, accumulate, if_pos fits, ih h]
      next => cases congrArg Prod.snd h

/-- The digits of a number of 64 bits are read into one significand. -/
theorem accumulate_digits {n : Nat} (h : n < wordBound) : accumulate 0 (digits n) = (n, []) := by
  induction n using Nat.strong_induction_on with
  | _ n ih =>
      rcases Nat.lt_or_ge n 10 with small | large
      · have fits : 10 * 0 + n < wordBound := by omega
        rw [digits_of_lt small, accumulate, if_pos fits, accumulate]
        simp
      · have front := ih (n / 10) (by omega) (by omega)
        have joined : 10 * (n / 10) + n % 10 = n := by omega
        rw [digits_of_le large, accumulate_append front, accumulate, joined, if_pos h, accumulate]

/-- An integer that 64 bits hold, with a sign or without. -/
def FitsWord (n : Int) : Prop := -(signedWordBound : Int) ≤ n ∧ n < wordBound

instance (n : Int) : Decidable (FitsWord n) := inferInstanceAs (Decidable (_ ∧ _))

/-- **The numeral of an integer of 64 bits means the integer.** -/
theorem value?_numeralOf {n : Int} (h : FitsWord n) : (numeralOf n).value? = some (.integer n) := by
  obtain ⟨low, high⟩ := h
  have bounds : signedWordBound ≤ wordBound := by decide
  have read := accumulate_digits (n := n.natAbs) (by unfold wordBound signedWordBound at *; omega)
  unfold Numeral.value? numeralOf
  simp only [read]
  by_cases negative : n < 0
  · have word : ¬ (n.natAbs = 0 ∨ signedWordBound < n.natAbs) := by omega
    have value : -(n.natAbs : Int) = n := by omega
    simp only [negative, decide_true, Bool.true_eq_false, if_false, word, value, ne_eq,
      not_true_eq_false]
  · have value : (n.natAbs : Int) = n := by omega
    simp [negative, value]

end Enquiry.Json
