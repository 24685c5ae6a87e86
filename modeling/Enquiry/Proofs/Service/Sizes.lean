import Mathlib.Algebra.Order.Field.Rat
import Mathlib.Tactic.FieldSimp
import Mathlib.Tactic.IntervalCases
import Mathlib.Tactic.Positivity
import Mathlib.Tactic.NormNum
import Enquiry.Proofs.Number.Rounding
import Enquiry.Proofs.Text.Digits
import Enquiry.Proofs.Text.Splitting
import Enquiry.Service.Basic

/-!
# Sizes as they are shown

A size is shown as a figure with one decimal and a unit.  `readSize?` reads such a text back, and
`exists_readSize?_eq` says what is read: the unit is the largest that the number of double
precision reaches (`InUnit`), and the figure is its tenths, rounded to even.

* `shown_mono_and_near`: **what is shown grows with the size**, through all units, and is at most
  half a decimal and the rounding to double precision away from it.
* `inRange_iff`: the unit is chosen before the figure is rounded, so **a figure reaches the next
  unit exactly for the sizes that are half a decimal below a unit or less** (`JustBelowUnit`).
-/

namespace Enquiry

open Number Text

variable {k l n v w : Nat}

/-! ### Reading sizes -/

/-- A size as it is shown, with the place of its unit among the units. -/
structure ShownSize where
  figure : ℚ
  unit : Nat
  deriving DecidableEq

/-- The number of bytes that is shown. -/
def ShownSize.bytes (size : ShownSize) : ℚ := size.figure * 1024 ^ size.unit

/-- The number that a figure writes, with places behind a point or without. -/
def figure? (text : List Char) : Option ℚ := do
  let (whole, places) := breakOn '.' text
  let n ← number? whole
  if places.isEmpty then some n
  else some (n + (← number? places) / 10 ^ places.length)

/-- The size that a text shows: a figure, a blank and a unit. -/
def readSize? (text : String) : Option ShownSize := do
  let (figure, unit) := breakOn ' ' text.toList
  let x ← figure? figure
  let k ← sizeUnits.findIdx? (·.toList == unit)
  some ⟨x, k⟩

/-- A figure with one decimal is read as so many tenths. -/
theorem figure?_oneDecimal (num den : Nat) :
    figure? (oneDecimal num den) = some ((roundQuotient (10 * num) den : ℚ) / 10) := by
  have rest := Nat.mod_lt (roundQuotient (10 * num) den) (show 0 < 10 by decide)
  have point : '.' ∉ decimal (roundQuotient (10 * num) den / 10) := not_mem_decimal (by decide)
  have places : (decimal (roundQuotient (10 * num) den % 10)).isEmpty = false ∧
      (decimal (roundQuotient (10 * num) den % 10)).length = 1 := by
    rw [decimal_of_lt rest]
    exact ⟨rfl, rfl⟩
  have joined : ((roundQuotient (10 * num) den / 10 : Nat) : ℚ) +
      ((roundQuotient (10 * num) den % 10 : Nat) : ℚ) / 10 ^ 1 =
      (roundQuotient (10 * num) den : ℚ) / 10 := by
    have whole := Nat.div_add_mod (roundQuotient (10 * num) den) 10
    field_simp
    exact_mod_cast (by omega)
  unfold figure? oneDecimal
  simp only [breakOn_append_cons point, number?_decimal, Option.bind_eq_bind, Option.bind_some,
    places.1, places.2, joined]
  rfl

/-- A figure with one decimal has no blank. -/
theorem blank_not_mem_oneDecimal (num den : Nat) : ' ' ∉ oneDecimal num den := by
  simp only [oneDecimal, List.mem_append, List.mem_cons, not_or]
  exact ⟨not_mem_decimal (by decide), by decide, not_mem_decimal (by decide)⟩

/-- A figure and a unit are read back. -/
theorem readSize?_append {figure : List Char} {unit : String} {x : ℚ}
    (read : figure? figure = some x) (solid : ' ' ∉ figure) (named : sizeUnits[k]? = some unit) :
    readSize? (String.ofList (figure ++ ' ' :: unit.toList)) = some ⟨x, k⟩ := by
  have found : sizeUnits.findIdx? (·.toList == unit.toList) = some k := by
    have among : k < 5 := (List.getElem?_eq_some_iff.mp named).1
    interval_cases k <;> cases named <;> decide
  unfold readSize?
  simp only [String.toList_ofList, breakOn_append_cons solid, read, found, Option.bind_eq_bind,
    Option.bind_some]

/-! ### The unit and the tenths -/

/-- A quotient is brought to the largest unit that it reaches, or to the last. -/
theorem exists_inLargestUnit_eq {units : List String} (nonempty : units ≠ []) (num den : Nat) :
    ∃ k unit, units[k]? = some unit ∧
      inLargestUnit num den units = (num, 1024 ^ k * den, unit) ∧
      (k ≠ 0 → 1024 ^ k * den ≤ num) ∧
      (k + 1 < units.length → num < 1024 ^ (k + 1) * den) := by
  induction units generalizing den with
  | nil => exact absurd rfl nonempty
  | cons unit larger ih =>
      cases larger with
      | nil => exact ⟨0, unit, rfl, by simp [inLargestUnit], by simp, by simp⟩
      | cons next larger =>
          by_cases reached : 1024 * den ≤ num
          · obtain ⟨k, chosen, named, brought, least, below⟩ :=
              ih (List.cons_ne_nil next larger) (1024 * den)
            have onward : ∀ j, 1024 ^ j * (1024 * den) = 1024 ^ (j + 1) * den := fun j => by ring
            rw [onward] at brought least below
            refine ⟨k + 1, chosen, named, ?_, fun _ => ?_, fun more => below (by simpa using more)⟩
            · rw [inLargestUnit, if_pos reached, brought]
              exact List.cons_ne_nil next larger
            · cases k with
              | zero => simpa using reached
              | succ k => exact least k.succ_ne_zero
          · refine ⟨0, unit, rfl, ?_, by simp, fun _ => by simpa using reached⟩
            rw [inLargestUnit, if_neg reached, Nat.pow_zero, Nat.one_mul]
            exact List.cons_ne_nil next larger

/-- The unit in which so many bytes are shown: the largest that they reach. -/
structure InUnit (v k : Nat) : Prop where
  reached : k ≠ 0 → 1024 ^ k ≤ v
  below : k < 4 → v < 1024 ^ (k + 1)
  among : k ≤ 4

theorem InUnit.reached_of_pos (inUnit : InUnit v k) (pos : 0 < v) : 1024 ^ k ≤ v := by
  cases k with
  | zero => exact pos
  | succ k => exact inUnit.reached k.succ_ne_zero

/-- So many bytes in tenths of a unit. -/
def tenths (v k : Nat) : Nat := roundQuotient (10 * v) (1024 ^ k)

/-- **What is read of a size**: the number of double precision, in its unit. -/
theorem exists_readSize?_eq (fits : n < 2 ^ 64) :
    ∃ k, InUnit (nearest n) k ∧
      readSize? (sizeText n) = some ⟨(tenths (nearest n) k : ℚ) / 10, k⟩ := by
  rcases Nat.eq_zero_or_pos n with rfl | pos
  · refine ⟨0, ⟨by simp, fun _ => by decide, by decide⟩, ?_⟩
    decide +kernel
  · obtain ⟨x, scale, rounded, filled, ratio⟩ := exists_ofNat?_eq pos fits
    obtain ⟨k, unit, named, brought, least, below⟩ :=
      exists_inLargestUnit_eq (show sizeUnits ≠ [] by decide) (nearest n * scale) scale
    have among : k < 5 := (List.getElem?_eq_some_iff.mp named).1
    have written : sizeText n =
        String.ofList (oneDecimal (nearest n) (1024 ^ k) ++ ' ' :: unit.toList) := by
      rw [sizeText, if_neg pos.ne', rounded, Option.getD_some, ratio]
      simp only [brought, oneDecimal, ← Nat.mul_assoc, roundQuotient_mul_right _ _ filled]
    refine ⟨k, ⟨fun larger => ?_, fun more => ?_, by omega⟩, ?_⟩
    · exact Nat.le_of_mul_le_mul_right (least larger) filled
    · exact Nat.lt_of_mul_lt_mul_right (below (Nat.succ_lt_succ more))
    · rw [written]
      exact readSize?_append (figure?_oneDecimal _ _) (blank_not_mem_oneDecimal _ _) named

theorem tenths_mono (le : v ≤ w) : tenths v k ≤ tenths w k :=
  roundQuotient_mono_left (Nat.mul_le_mul_left 10 le)

/-- From the unit on the figure is one at least. -/
theorem ten_le_tenths (reached : 1024 ^ k ≤ v) : 10 ≤ tenths v k := by
  have one := tenths_mono (k := k) reached
  rwa [tenths, Nat.mul_comm, roundQuotient_self_mul 10 (Nat.pow_pos (by decide))] at one

/-- Up to the next unit the figure is 1024 at most. -/
theorem tenths_le (below : v ≤ 1024 ^ (k + 1)) : tenths v k ≤ 10240 := by
  have next := tenths_mono (k := k) below
  rwa [tenths, tenths, show 10 * 1024 ^ (k + 1) = 1024 ^ k * 10240 by ring,
    roundQuotient_self_mul 10240 (Nat.pow_pos (by decide))] at next

/-! ### How far what is shown is from the size -/

theorem InUnit.le (inUnit : InUnit v k) (inUnit' : InUnit w l) (le : v ≤ w) : k ≤ l := by
  by_contra less
  have small : w < 1024 ^ (l + 1) := inUnit'.below (by have := inUnit.among; omega)
  have large : 1024 ^ k ≤ v := inUnit.reached (by omega)
  have between : 1024 ^ (l + 1) ≤ 1024 ^ k := Nat.pow_le_pow_right (by decide) (by omega)
  omega

/-- The tenths in bytes grow with the size, through all units. -/
theorem InUnit.tenths_mul_le (inUnit : InUnit v k) (inUnit' : InUnit w l) (le : v ≤ w) :
    tenths v k * 1024 ^ k ≤ tenths w l * 1024 ^ l := by
  rcases Nat.lt_or_eq_of_le (inUnit.le inUnit' le) with less | rfl
  · -- the next unit lies between the two
    have below := inUnit.below (by have := inUnit'.among; omega)
    have reached := inUnit'.reached (by omega)
    calc tenths v k * 1024 ^ k
        ≤ 10240 * 1024 ^ k := Nat.mul_le_mul_right _ (tenths_le below.le)
      _ = 10 * 1024 ^ (k + 1) := by ring
      _ ≤ 10 * 1024 ^ l := Nat.mul_le_mul_left _ (Nat.pow_le_pow_right (by decide) less)
      _ ≤ tenths w l * 1024 ^ l := Nat.mul_le_mul_right _ (ten_le_tenths reached)
  · exact Nat.mul_le_mul_right _ (tenths_mono le)

theorem bytes_tenths (v k : Nat) :
    ShownSize.bytes ⟨(tenths v k : ℚ) / 10, k⟩ = ((tenths v k * 1024 ^ k : Nat) : ℚ) / 10 := by
  rw [ShownSize.bytes]
  push_cast
  ring

/-- The tenths are half of one away at most, and the number of double precision 1024. -/
theorem abs_bytes_sub_le (fits : n < 2 ^ 64) (k : Nat) :
    |ShownSize.bytes ⟨(tenths (nearest n) k : ℚ) / 10, k⟩ - n| ≤
      (0.05 : ℚ) * 1024 ^ k + 1024 := by
  obtain ⟨low, high⟩ :=
    roundQuotient_bounds (10 * nearest n) (show 0 < 1024 ^ k from Nat.pow_pos (by decide))
  obtain ⟨low', high'⟩ := nearest_bounds n
  have apart := spacing_le fits
  rw [← tenths] at low high
  have shown : 20 * n ≤ 2 * (tenths (nearest n) k * 1024 ^ k) + 1024 ^ k + 20480 ∧
      2 * (tenths (nearest n) k * 1024 ^ k) ≤ 20 * n + 1024 ^ k + 20480 := by
    rw [Nat.mul_comm (tenths (nearest n) k)]
    omega
  obtain ⟨lower, upper⟩ := shown
  have lower' : (20 * n : ℚ) ≤ 2 * (tenths (nearest n) k * 1024 ^ k) + 1024 ^ k + 20480 := by
    exact_mod_cast lower
  have upper' : (2 * (tenths (nearest n) k * 1024 ^ k) : ℚ) ≤ 20 * n + 1024 ^ k + 20480 := by
    exact_mod_cast upper
  rw [ShownSize.bytes, abs_le]
  constructor <;> norm_num <;> linarith

/-- **What is shown grows with the size**, and is near it: half a decimal away at most, and 1024
bytes for the rounding to double precision. -/
theorem shown_mono_and_near :
    (∀ a b, a ≤ b → b < 2 ^ 64 → ∃ x y,
      readSize? (sizeText a) = some x ∧ readSize? (sizeText b) = some y ∧ x.bytes ≤ y.bytes) ∧
    ∀ n < 2 ^ 64, ∃ x, readSize? (sizeText n) = some x ∧
      |x.bytes - n| ≤ (0.05 : ℚ) * 1024 ^ x.unit + 1024 := by
  constructor
  · intro a b le fits
    obtain ⟨k, inUnit, read⟩ := exists_readSize?_eq (le.trans_lt fits)
    obtain ⟨l, inUnit', read'⟩ := exists_readSize?_eq fits
    refine ⟨_, _, read, read', ?_⟩
    have grown := inUnit.tenths_mul_le inUnit' (nearest_mono le)
    rw [bytes_tenths, bytes_tenths]
    gcongr
  · intro n fits
    obtain ⟨k, -, read⟩ := exists_readSize?_eq fits
    exact ⟨_, read, abs_bytes_sub_le fits k⟩

/-- The last number of bytes that is shown in kilobytes is not shown as more than a megabyte, and
the largest size there is is near what is shown of it. -/
theorem shown_mono_and_near_edges :
    (1048575 ≤ 1048576 ∧ 1048576 < 2 ^ 64 ∧ ∃ x y, readSize? (sizeText 1048575) = some x ∧
      readSize? (sizeText 1048576) = some y ∧ x.bytes ≤ y.bytes) ∧
    2 ^ 64 - 1 < 2 ^ 64 ∧ ∃ x, readSize? (sizeText (2 ^ 64 - 1)) = some x ∧
      |x.bytes - (2 ^ 64 - 1 : Nat)| ≤ (0.05 : ℚ) * 1024 ^ x.unit + 1024 :=
  ⟨⟨by decide, by decide, shown_mono_and_near.1 1048575 1048576 (by decide) (by decide)⟩,
    by decide, shown_mono_and_near.2 (2 ^ 64 - 1) (by decide)⟩

/-! ### Figures that reach the next unit -/

/-- The figure is one at least, and does not reach the next unit where there is one. -/
def ShownSize.InRange (size : ShownSize) : Prop :=
  1 ≤ size.figure ∧ (sizeUnits[size.unit]? = some "TB" ∨ size.figure < 1024)

/-- A number of bytes half a decimal below a unit, or less. -/
def JustBelowUnit (n : Nat) : Prop := ∃ k < 4, 20479 * 1024 ^ k ≤ 20 * n ∧ n < 1024 ^ (k + 1)

theorem InUnit.unique (inUnit : InUnit v k) (inUnit' : InUnit v l) : k = l :=
  (inUnit.le inUnit' le_rfl).antisymm (inUnit'.le inUnit le_rfl)

/-- The figure is 1024 from half a decimal below the next unit on; the tie goes up. -/
theorem le_tenths_iff : 10240 ≤ tenths v k ↔ 20479 * 1024 ^ k ≤ 20 * v := by
  rw [tenths, le_roundQuotient_iff (Nat.pow_pos (by decide)) (by decide)]
  omega

/-- Below a terabyte nothing is rounded to double precision. -/
theorem nearest_eq_of_lt (small : k < 4) (below : n < 1024 ^ (k + 1) ∨ nearest n < 1024 ^ (k + 1)) :
    nearest n = n := by
  have least : 1024 ^ (k + 1) ≤ 1024 ^ 4 := Nat.pow_le_pow_right (by decide) small
  have terabyte : nearest (1024 ^ 4) = 1024 ^ 4 := nearest_eq_self (by decide)
  have far : 1024 ^ 4 < 2 ^ 53 := by decide
  refine nearest_eq_self (Nat.lt_of_not_le fun large => ?_)
  have grown := nearest_mono (far.le.trans large)
  omega

/-- The sizes just below a unit are shown by a figure that reaches it. -/
theorem InUnit.justBelowUnit_iff (inUnit : InUnit (nearest n) k) :
    JustBelowUnit n ↔ k < 4 ∧ 10240 ≤ tenths (nearest n) k := by
  constructor
  · rintro ⟨l, small, low, high⟩
    rw [nearest_eq_of_lt small (.inl high)] at inUnit ⊢
    have inUnit' : InUnit n l := ⟨fun _ => by omega, fun _ => high, small.le⟩
    obtain rfl := inUnit.unique inUnit'
    exact ⟨small, le_tenths_iff.mpr low⟩
  · rintro ⟨small, reached⟩
    have below := inUnit.below small
    have same := nearest_eq_of_lt small (.inr below)
    rw [same] at below reached
    exact ⟨k, small, le_tenths_iff.mp reached, below⟩

theorem InUnit.last_iff (inUnit : InUnit v k) : sizeUnits[k]? = some "TB" ↔ ¬ k < 4 := by
  have among := inUnit.among
  interval_cases k <;> decide

/-- **A size is shown by a figure from one up to the next unit but just below a unit**, where the
figure is rounded to 1024 after the smaller unit is chosen. -/
theorem inRange_iff (pos : 0 < n) (fits : n < 2 ^ 64) :
    ∃ size, readSize? (sizeText n) = some size ∧ 1 ≤ size.figure ∧
      (size.InRange ↔ ¬ JustBelowUnit n) ∧ (JustBelowUnit n → size.figure = 1024) := by
  obtain ⟨k, inUnit, read⟩ := exists_readSize?_eq fits
  have one : (1 : ℚ) ≤ (tenths (nearest n) k : ℚ) / 10 := by
    have least := ten_le_tenths (inUnit.reached_of_pos (nearest_pos pos))
    rw [le_div_iff₀ (by norm_num)]
    exact_mod_cast least
  have less : (tenths (nearest n) k : ℚ) / 10 < 1024 ↔ ¬ 10240 ≤ tenths (nearest n) k := by
    rw [div_lt_iff₀ (by norm_num), Nat.not_le]
    norm_num
  refine ⟨_, read, one, ?_, fun just => ?_⟩
  · rw [ShownSize.InRange, inUnit.last_iff, less, inUnit.justBelowUnit_iff, not_and_or]
    exact and_iff_right one
  · obtain ⟨small, reached⟩ := inUnit.justBelowUnit_iff.mp just
    have full := (tenths_le (inUnit.below small).le).antisymm reached
    simp only [full]
    norm_num

example : sizeText 1048575 = "1024.0 KB" := by decide +kernel

/-- The last size that is not just below a megabyte, and the last that is. -/
theorem inRange_iff_kilobytes :
    (0 < 1048524 ∧ 1048524 < 2 ^ 64 ∧ ∃ size, readSize? (sizeText 1048524) = some size ∧
      size.InRange) ∧
    0 < 1048575 ∧ 1048575 < 2 ^ 64 ∧ ∃ size, readSize? (sizeText 1048575) = some size ∧
      size.figure = 1024 ∧ ¬ size.InRange := by
  constructor
  · obtain ⟨size, read, -, inRange, -⟩ := inRange_iff (n := 1048524) (by decide) (by decide)
    refine ⟨by decide, by decide, size, read, inRange.mpr ?_⟩
    rintro ⟨k, small, band⟩
    interval_cases k <;> revert band <;> decide
  · obtain ⟨size, read, -, inRange, full⟩ := inRange_iff (n := 1048575) (by decide) (by decide)
    have just : JustBelowUnit 1048575 := ⟨1, by decide⟩
    exact ⟨by decide, by decide, size, read, full just, fun within => inRange.mp within just⟩

/-- One byte less than a megabyte is shown as 1024 kilobytes. -/
theorem not_forall_inRange : ¬ ∀ n, 0 < n → n < 2 ^ 64 →
    ∃ size, readSize? (sizeText n) = some size ∧ size.InRange := by
  intro all
  obtain ⟨size, read, -, inRange⟩ := all 1048575 (by decide) (by decide)
  have shown : readSize? (sizeText 1048575) = some ⟨1024, 1⟩ := by decide +kernel
  obtain rfl := Option.some.inj (shown.symm.trans read)
  revert inRange
  decide +kernel

end Enquiry
