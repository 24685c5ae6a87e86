import Mathlib.Algebra.Order.Ring.Nat
import Mathlib.Tactic.Linarith
import Mathlib.Tactic.Ring
import Enquiry.Number.Binary64

/-!
# Rounded numbers

A rounded quotient depends on its value alone (`roundQuotient_mul_right`), grows with it
(`roundQuotient_mono`), keeps whole numbers (`roundQuotient_self_mul`) and is at most half a unit
away (`roundQuotient_bounds`).

The natural numbers that are numbers of double precision lie `spacing n` apart around `n`, and
`nearest n` is the nearest of them.  **A natural number below two to the 64 is rounded to the
nearest of these** (`exists_ofNat?_eq`), which is a natural number again, grows with it
(`nearest_mono`) and is the number itself below two to the 53 (`nearest_eq_self`).
-/

namespace Enquiry.Number

variable {a b c d k m n num den : Nat}

/-! ### Quotients -/

/-- A quotient in other terms is rounded to the same. -/
theorem roundQuotient_mul_right (num den : Nat) (pos : 0 < k) :
    roundQuotient (num * k) (den * k) = roundQuotient num den := by
  have below : 2 * (num % den * k) < den * k ↔ 2 * (num % den) < den := by
    rw [← Nat.mul_assoc, Nat.mul_lt_mul_right pos]
  have tie : 2 * (num % den * k) = den * k ↔ 2 * (num % den) = den := by
    rw [← Nat.mul_assoc, Nat.mul_left_inj pos.ne']
  rw [roundQuotient, roundQuotient, Nat.mul_div_mul_right num den pos, Nat.mul_mod_mul_right]
  simp only [below, tie]

/-- A whole number is kept. -/
theorem roundQuotient_self_mul (n : Nat) (pos : 0 < den) : roundQuotient (den * n) den = n := by
  rw [roundQuotient, Nat.mul_div_cancel_left n pos, Nat.mul_mod_right, Nat.mul_zero]
  exact if_pos (.inl pos)

theorem roundQuotient_one (n : Nat) : roundQuotient n 1 = n := by
  have kept := roundQuotient_self_mul n Nat.one_pos
  rwa [Nat.one_mul] at kept

/-- A quotient is rounded down when at most half a unit is left, and up when at least half of one
is; ties are rounded to even. -/
theorem roundQuotient_cases (num den : Nat) :
    (roundQuotient num den = num / den ∧
      (2 * (num % den) < den ∨ 2 * (num % den) = den ∧ num / den % 2 = 0)) ∨
    (roundQuotient num den = num / den + 1 ∧
      (den < 2 * (num % den) ∨ 2 * (num % den) = den ∧ num / den % 2 = 1)) := by
  unfold roundQuotient
  simp only
  split
  next down => exact .inl ⟨rfl, down⟩
  next up => exact .inr ⟨rfl, by omega⟩

/-- Rounding moves a quotient by half a unit at most. -/
theorem roundQuotient_bounds (num : Nat) (pos : 0 < den) :
    2 * num ≤ 2 * (den * roundQuotient num den) + den ∧
      2 * (den * roundQuotient num den) ≤ 2 * num + den := by
  have whole := Nat.div_add_mod num den
  have rest := Nat.mod_lt num pos
  rcases roundQuotient_cases num den with ⟨down, half⟩ | ⟨up, half⟩
  · rw [down]
    omega
  · rw [up, Nat.mul_add, Nat.mul_one]
    omega

theorem roundQuotient_mono_left (le : a ≤ b) : roundQuotient a den ≤ roundQuotient b den := by
  have wholes : a / den ≤ b / den := Nat.div_le_div_right le
  have whole := Nat.div_add_mod a den
  have whole' := Nat.div_add_mod b den
  rcases Nat.lt_or_eq_of_le wholes with less | same
  · rcases roundQuotient_cases a den with ⟨e, -⟩ | ⟨e, -⟩ <;>
      rcases roundQuotient_cases b den with ⟨e', -⟩ | ⟨e', -⟩ <;> omega
  · -- between the same whole numbers the rests decide
    rw [← same] at whole'
    rcases roundQuotient_cases a den with ⟨e, half⟩ | ⟨e, half⟩ <;>
      rcases roundQuotient_cases b den with ⟨e', half'⟩ | ⟨e', half'⟩ <;> omega

/-- A greater quotient is rounded to a greater number, or to the same. -/
theorem roundQuotient_mono (posB : 0 < b) (posD : 0 < d) (le : a * d ≤ c * b) :
    roundQuotient a b ≤ roundQuotient c d := by
  rw [← roundQuotient_mul_right a b posD, ← roundQuotient_mul_right c d posB, Nat.mul_comm d b]
  exact roundQuotient_mono_left le

/-- An even number is reached from half a unit below it on, as ties go to it. -/
theorem le_roundQuotient_iff (pos : 0 < den) (even : m % 2 = 0) :
    m ≤ roundQuotient num den ↔ 2 * (den * m) ≤ 2 * num + den := by
  constructor
  · intro reached
    have scaled := Nat.mul_le_mul_left den reached
    have near := (roundQuotient_bounds num pos).2
    omega
  · intro near
    have whole := Nat.div_add_mod num den
    have rest := Nat.mod_lt num pos
    by_contra less
    -- the number is one more than the whole part, which is odd then
    rcases Nat.lt_or_ge (num / den + 1) m with far | close
    · have scaled : den * (num / den + 2) ≤ den * m := Nat.mul_le_mul_left den far
      rw [Nat.mul_add] at scaled
      omega
    · rcases roundQuotient_cases num den with ⟨down, half⟩ | ⟨up, half⟩
      · obtain rfl : m = num / den + 1 := by omega
        rw [Nat.mul_add] at near
        omega
      · omega

/-! ### Natural numbers of double precision -/

/-- How far the natural numbers of double precision lie apart around a natural number. -/
def spacing (n : Nat) : Nat := 2 ^ (n.log2 - 52)

/-- The natural number of double precision nearest to a natural number; a tie goes to the even
significand. -/
def nearest (n : Nat) : Nat := spacing n * roundQuotient n (spacing n)

theorem spacing_pos (n : Nat) : 0 < spacing n := Nat.pow_pos (by decide)

/-- Small numbers are numbers of double precision. -/
theorem nearest_eq_self (small : n < 2 ^ 53) : nearest n = n := by
  have bits : n.log2 ≤ 52 := by
    rcases Nat.eq_zero_or_pos n with rfl | pos
    · exact Nat.zero_le 52
    · exact Nat.le_of_lt_succ ((Nat.log2_lt pos.ne').mpr small)
  have single : spacing n = 1 := by rw [spacing, Nat.sub_eq_zero_of_le bits, Nat.pow_zero]
  rw [nearest, single, roundQuotient_one, Nat.one_mul]

theorem spacing_le (fits : n < 2 ^ 64) : spacing n ≤ 2048 := by
  have bits : n.log2 - 52 ≤ 11 := by
    rcases Nat.eq_zero_or_pos n with rfl | pos
    · exact Nat.zero_le 11
    · have below := (Nat.log2_lt pos.ne').mpr fits
      omega
  exact Nat.pow_le_pow_right (by decide) bits

/-- Rounding moves a number by half the spacing at most. -/
theorem nearest_bounds (n : Nat) :
    2 * n ≤ 2 * nearest n + spacing n ∧ 2 * nearest n ≤ 2 * n + spacing n :=
  roundQuotient_bounds n (spacing_pos n)

/-- Rounding does not pass by a number of the grid. -/
theorem le_nearest (grid : spacing n ∣ m) (le : m ≤ n) : m ≤ nearest n := by
  obtain ⟨steps, rfl⟩ := grid
  have reached : roundQuotient _ _ ≤ roundQuotient n (spacing n) := roundQuotient_mono_left le
  rw [roundQuotient_self_mul steps (spacing_pos n)] at reached
  exact Nat.mul_le_mul_left _ reached

theorem nearest_le (grid : spacing n ∣ m) (le : n ≤ m) : nearest n ≤ m := by
  obtain ⟨steps, rfl⟩ := grid
  have reached : roundQuotient n (spacing n) ≤ roundQuotient _ _ := roundQuotient_mono_left le
  rw [roundQuotient_self_mul steps (spacing_pos n)] at reached
  exact Nat.mul_le_mul_left _ reached

/-- A greater number is rounded to a greater one, or to the same. -/
theorem nearest_mono (le : a ≤ b) : nearest a ≤ nearest b := by
  rcases Nat.eq_zero_or_pos a with rfl | pos
  · rw [nearest_eq_self (by decide)]
    exact Nat.zero_le _
  have bits : a.log2 ≤ b.log2 :=
    (Nat.le_log2 (by omega)).mpr ((Nat.log2_self_le pos.ne').trans le)
  rcases Nat.lt_or_eq_of_le bits with less | same
  · -- a power of two lies between the two numbers
    have grid : spacing a ∣ 2 ^ b.log2 := Nat.pow_dvd_pow 2 (by omega)
    have grid' : spacing b ∣ 2 ^ b.log2 := Nat.pow_dvd_pow 2 (by omega)
    have above : a ≤ 2 ^ b.log2 :=
      Nat.lt_log2_self.le.trans (Nat.pow_le_pow_right (by decide) less)
    exact (nearest_le grid above).trans (le_nearest grid' (Nat.log2_self_le (by omega)))
  · have even : spacing a = spacing b := by rw [spacing, spacing, same]
    rw [nearest, nearest, even]
    exact Nat.mul_le_mul_left _ (roundQuotient_mono_left le)

theorem nearest_pos (pos : 0 < n) : 0 < nearest n := by
  have one := nearest_mono (a := 1) pos
  rw [nearest_eq_self (by decide)] at one
  exact one

/-- The significand of a natural number has 53 bits. -/
theorem exponentFor_one (pos : 0 < n) : Binary64.exponentFor n 1 = (n.log2 : Int) - 52 := by
  have none : Nat.log2 1 = 0 := by decide
  have bits : ((n.log2 : Int) - (0 : Nat)).toNat = n.log2 ∧
      (-((n.log2 : Int) - (0 : Nat))).toNat = 0 := by omega
  have reached : 1 * Nat.pow 2 n.log2 ≤ n * Nat.pow 2 0 := by
    rw [Nat.one_mul]
    exact (Nat.log2_self_le pos.ne').trans (Nat.le_mul_of_pos_right n Nat.one_pos)
  unfold Binary64.exponentFor scaled
  simp only [none, bits.1, bits.2, reached, if_true, Binary64.minExponent]
  omega

/-- A significand with the exponent of so many bits, as a quotient. -/
theorem scaled_sub (m bits : Nat) :
    scaled m ((bits : Int) - 52) = (m * 2 ^ (bits - 52), 2 ^ (52 - bits)) := by
  have up : ((bits : Int) - 52).toNat = bits - 52 := by omega
  have down : (-((bits : Int) - 52)).toNat = 52 - bits := by omega
  rw [scaled, up, down]
  rfl

/-- The significand is rounded on the grid of whole numbers, or is exact. -/
theorem roundQuotient_significand (n : Nat) :
    roundQuotient (n * 2 ^ (52 - n.log2)) (spacing n) =
      roundQuotient n (spacing n) * 2 ^ (52 - n.log2) := by
  rcases Nat.le_total n.log2 52 with few | many
  · rw [spacing, Nat.sub_eq_zero_of_le few, Nat.pow_zero, roundQuotient_one, roundQuotient_one]
  · rw [Nat.sub_eq_zero_of_le many, Nat.pow_zero, Nat.mul_one, Nat.mul_one]

/-- The significand of a natural number, filled up to 53 bits. -/
def significandOf (n : Nat) : Nat := roundQuotient n (spacing n) * 2 ^ (52 - n.log2)

theorem significandOf_ne_zero (pos : 0 < n) : significandOf n ≠ 0 := by
  have filled := nearest_pos pos
  have some : roundQuotient n (spacing n) ≠ 0 := fun none => by
    rw [nearest, none, Nat.mul_zero] at filled
    exact Nat.lt_irrefl 0 filled
  exact Nat.mul_ne_zero some (Nat.pow_pos (by decide)).ne'

/-- A significand that is rounded up to 54 bits is halved. -/
theorem ofNat?_eq (pos : 0 < n) (fits : n < 2 ^ 64) :
    Binary64.ofNat? n = some (if significandOf n = 2 ^ 53
      then ⟨false, 2 ^ 52, ((n.log2 + 1 : Nat) : Int) - 52⟩
      else ⟨false, significandOf n, (n.log2 : Int) - 52⟩) := by
  have bits : n.log2 < 64 := (Nat.log2_lt pos.ne').mpr fits
  have grid : 1 * 2 ^ (n.log2 - 52) = spacing n := Nat.one_mul _
  have next : ((n.log2 + 1 : Nat) : Int) - 52 = (n.log2 : Int) - 52 + 1 := by omega
  have low : ¬ Binary64.maxExponent < (n.log2 : Int) - 52 ∧
      ¬ Binary64.maxExponent < (n.log2 : Int) - 52 + 1 := by
    rw [Binary64.maxExponent]
    omega
  have half : (2 : Nat) ^ 52 ≠ 0 := by decide
  unfold Binary64.ofNat? Binary64.ofRatio?
  simp only [if_neg pos.ne', exponentFor_one pos, scaled_sub, grid, roundQuotient_significand,
    ← significandOf.eq_1, next, Nat.pow_eq]
  by_cases carried : significandOf n = 2 ^ 53
  · simp only [if_pos carried, if_neg low.2, if_neg half]
  · simp only [if_neg carried, if_neg low.1, if_neg (significandOf_ne_zero pos)]

/-- The nearest number in terms of its significand. -/
theorem nearest_mul (n : Nat) :
    nearest n * 2 ^ (52 - n.log2) = significandOf n * 2 ^ (n.log2 - 52) := by
  rw [nearest, significandOf, spacing]
  ring

/-- A halved significand has the next exponent. -/
theorem nearest_mul_of_carried (carried : significandOf n = 2 ^ 53) :
    nearest n * 2 ^ (52 - (n.log2 + 1)) = 2 ^ 52 * 2 ^ (n.log2 + 1 - 52) := by
  have value := nearest_mul n
  rw [carried] at value
  rcases Nat.lt_or_ge n.log2 52 with few | many
  · -- behind the point: half of both sides
    rw [show 52 - n.log2 = 52 - (n.log2 + 1) + 1 by omega, Nat.pow_succ, ← Nat.mul_assoc,
      show n.log2 - 52 = 0 by omega] at value
    rw [show n.log2 + 1 - 52 = 0 by omega]
    omega
  · rw [show 52 - n.log2 = 0 by omega] at value
    rw [show n.log2 + 1 - 52 = n.log2 - 52 + 1 by omega, Nat.pow_succ,
      show 52 - (n.log2 + 1) = 0 by omega, value]
    ring

/-- **A natural number is rounded to the nearest one of double precision.** -/
theorem exists_ofNat?_eq (pos : 0 < n) (fits : n < 2 ^ 64) :
    ∃ x scale, Binary64.ofNat? n = some x ∧ 0 < scale ∧ x.ratio = (nearest n * scale, scale) := by
  have filled : ∀ bits : Nat, 0 < 2 ^ bits := fun bits => Nat.pow_pos (by decide)
  have rounded := ofNat?_eq pos fits
  by_cases carried : significandOf n = 2 ^ 53
  · rw [if_pos carried] at rounded
    refine ⟨_, 2 ^ (52 - (n.log2 + 1)), rounded, filled _, (scaled_sub _ _).trans ?_⟩
    rw [nearest_mul_of_carried carried]
  · rw [if_neg carried] at rounded
    refine ⟨_, 2 ^ (52 - n.log2), rounded, filled _, (scaled_sub _ _).trans ?_⟩
    rw [nearest_mul]

end Enquiry.Number
