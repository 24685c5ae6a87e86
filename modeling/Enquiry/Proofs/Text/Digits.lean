import Mathlib.Tactic.IntervalCases
import Enquiry.Text.Digit

/-!
# Digits of numbers

The decimal of a number is made of ASCII digits (`isAsciiDigit_of_mem_decimal`).  `digits` are
their values, the highest first; no zero leads others (`digits_ne_zero_cons`).  **A decimal is read
as its number** (`number?_decimal`), zeros in front of it or not, so no two numbers have the same.
-/

namespace Enquiry.Text

theorem isAsciiDigit_iff {c : Char} :
    isAsciiDigit c = true ↔ 0x30 ≤ c.toNat ∧ c.toNat ≤ 0x39 := by
  simp [isAsciiDigit, Char.le_def, UInt32.le_iff_toNat_le]

theorem isAsciiDigit_digitChar {d : Nat} (h : d < 10) : isAsciiDigit (digitChar d) = true := by
  interval_cases d <;> decide

theorem isAsciiDigit_of_mem_decimal {n : Nat} {c : Char} (h : c ∈ decimal n) :
    isAsciiDigit c = true := by
  induction n using Nat.strong_induction_on with
  | _ n ih =>
      rcases Nat.lt_or_ge n 10 with small | large
      · rw [decimal_of_lt small, List.mem_singleton] at h
        subst h
        exact isAsciiDigit_digitChar small
      · rw [decimal_of_le large, List.mem_append, List.mem_singleton] at h
        rcases h with h | rfl
        · exact ih (n / 10) (by omega) h
        · exact isAsciiDigit_digitChar (by omega)

theorem not_mem_decimal {n : Nat} {c : Char} (other : isAsciiDigit c = false) : c ∉ decimal n := by
  intro inside
  rw [isAsciiDigit_of_mem_decimal inside] at other
  cases other

theorem exists_decimal_eq_cons (n : Nat) :
    ∃ c cs, decimal n = c :: cs ∧ isAsciiDigit c = true := by
  obtain ⟨c, cs, first⟩ := List.exists_cons_of_ne_nil (decimal_ne_nil n)
  exact ⟨c, cs, first, isAsciiDigit_of_mem_decimal (n := n) (by simp [first])⟩

theorem digitValue?_digitChar {d : Nat} (h : d < 10) : digitValue? (digitChar d) = some d := by
  interval_cases d <;> rfl

theorem hexValue?_hexChar {d : Nat} (h : d < 16) : hexValue? (hexChar d) = some d := by
  interval_cases d <;> rfl

theorem le_toNat_hexChar {d : Nat} (h : d < 16) : 0x20 ≤ (hexChar d).toNat := by
  interval_cases d <;> decide

/-- The values of the digits of a number, the highest first. -/
def digits (n : Nat) : List Nat := (decimal n).filterMap digitValue?

theorem digits_of_lt {n : Nat} (h : n < 10) : digits n = [n] := by
  simp [digits, decimal_of_lt h, digitValue?_digitChar h]

theorem digits_of_le {n : Nat} (h : 10 ≤ n) : digits n = digits (n / 10) ++ [n % 10] := by
  have last : digitValue? (digitChar (n % 10)) = some (n % 10) := digitValue?_digitChar (by omega)
  simp [digits, decimal_of_le h, last]

theorem digits_ne_nil (n : Nat) : digits n ≠ [] := by
  rcases Nat.lt_or_ge n 10 with small | large
  · simp [digits_of_lt small]
  · simp [digits_of_le large]

/-- The highest digit of a number is zero for zero only. -/
theorem head?_digits {n : Nat} (h : 0 < n) : (digits n).head? ≠ some 0 := by
  induction n using Nat.strong_induction_on with
  | _ n ih =>
      rcases Nat.lt_or_ge n 10 with small | large
      · simpa [digits_of_lt small] using Nat.ne_of_gt h
      · obtain ⟨d, ds, front⟩ := List.exists_cons_of_ne_nil (digits_ne_nil (n / 10))
        have above := ih (n / 10) (by omega) (by omega)
        rw [digits_of_le large, front]
        rwa [front] at above

/-- No zero leads other digits. -/
theorem digits_ne_zero_cons (n d : Nat) (ds : List Nat) : digits n ≠ 0 :: d :: ds := by
  intro leading
  rcases Nat.eq_zero_or_pos n with rfl | pos
  · simp [digits_of_lt] at leading
  · exact head?_digits pos (by rw [leading]; rfl)

/-! ### Numbers of digits -/

theorem number?_of_ne_nil {text : List Char} (some : text ≠ []) :
    number? text = text.foldlM (fun value c => (digitValue? c).map (10 * value + ·)) 0 := by
  cases text with
  | nil => exact absurd rfl some
  | cons c cs => rfl

theorem number?_decimal (n : Nat) : number? (decimal n) = some n := by
  rw [number?_of_ne_nil (decimal_ne_nil n)]
  induction n using Nat.strong_induction_on with
  | _ n ih =>
      rcases Nat.lt_or_ge n 10 with small | large
      · simp [decimal_of_lt small, digitValue?_digitChar small]
      · have last : digitValue? (digitChar (n % 10)) = some (n % 10) :=
          digitValue?_digitChar (by omega)
        have joined : 10 * (n / 10) + n % 10 = n := by omega
        rw [decimal_of_le large, List.foldlM_append, ih (n / 10) (by omega)]
        simp [last, joined]

/-- Zeros in front of a number do not count. -/
theorem number?_replicate_append (zeros : Nat) {text : List Char} (some : text ≠ []) :
    number? (List.replicate zeros '0' ++ text) = number? text := by
  induction zeros with
  | zero => rfl
  | succ zeros ih =>
      rw [← ih, number?_of_ne_nil (by simp [some]), number?_of_ne_nil (by simp [some]),
        List.replicate_succ, List.cons_append, List.foldlM_cons]
      rfl

end Enquiry.Text
