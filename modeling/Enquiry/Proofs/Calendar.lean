import Enquiry.Calendar
import Enquiry.Proofs.Text.Digits

/-!
# Days and their texts

A part of the text of a day has digits only, apart from the sign of a year, and month and day have
two of them (`Date.length_padded_two`), so the text can be cut into its parts from the end.  **No
two days have the same text** (`Date.text_injective`).

The first day of the calendar is the only one without a day before it (`Date.previous?_eq_none_iff`);
on all others yesterday is another day (`Date.exists_previous`).  The days are in order, and the day
after a day is the next one in it: a later one with no day between the two (`Date.IsNext`).  **The day
before and the day after undo each other**, as each is the one next to the day
(`Date.previous?_eq_some_iff`, `Date.next?_eq_some_iff`), over the ends of months and years and the
year 0.
-/

namespace Enquiry

open Text

namespace Date

variable {d e : Date}

/-! ### Days and the days before them -/

/-- The first day of the calendar. -/
def first : Date := ⟨firstYear, 1, 1, by decide⟩

theorem ofParts?_eq_none_iff {year : Int} {month day : Nat} :
    ofParts? year month day = none ↔ ¬ IsDay year month day := by
  rw [ofParts?]
  split <;> simp_all

theorem daysInMonth_bounds (year : Int) (month : Nat) :
    28 ≤ daysInMonth year month ∧ daysInMonth year month ≤ 31 := by
  unfold daysInMonth
  split
  · split <;> omega
  · split <;> omega

/-- The three numbers of a day are in their bounds. -/
theorem bounds (d : Date) : firstYear ≤ d.year ∧ d.year ≤ lastYear ∧ 1 ≤ d.month ∧ d.month ≤ 12 ∧
    1 ≤ d.day ∧ d.day ≤ 31 := by
  obtain ⟨early, late, months, year, days, month⟩ := d.isDay
  exact ⟨early, late, months, year, days, Nat.le_trans month (daysInMonth_bounds _ _).2⟩

theorem eq_of_parts (year : d.year = e.year) (month : d.month = e.month) (day : d.day = e.day) :
    d = e := by
  cases d
  cases e
  simp_all

/-- **Only the first day has no day before it.** -/
theorem previous?_eq_none_iff : d.previous? = none ↔ d = first := by
  obtain ⟨early, late, months, year, days, month⟩ := d.isDay
  constructor
  · intro none
    rw [previous?] at none
    split at none
    next later =>
        -- a day of the same month
        refine absurd ⟨early, late, months, year, ?_, ?_⟩ (ofParts?_eq_none_iff.mp none) <;> omega
    next firstOfMonth =>
        split at none
        next later =>
            -- the last day of a month of the same year
            have some := (daysInMonth_bounds d.year (d.month - 1)).1
            refine absurd ⟨early, late, ?_, ?_, ?_, Nat.le_refl _⟩
              (ofParts?_eq_none_iff.mp none) <;> omega
        next firstOfYear =>
            have noYear : ¬ firstYear ≤ d.year - 1 := fun before =>
              ofParts?_eq_none_iff.mp none ⟨before, by omega, by decide, by decide, by decide,
                by simp [daysInMonth]⟩
            refine eq_of_parts ?_ ?_ ?_
            · show d.year = firstYear
              omega
            · show d.month = 1
              omega
            · show d.day = 1
              omega
  · rintro rfl
    decide

theorem parts_of_ofParts? {year : Int} {month day : Nat} (h : ofParts? year month day = some d) :
    d.year = year ∧ d.month = month ∧ d.day = day := by
  rw [ofParts?] at h
  split at h
  · cases h
    exact ⟨rfl, rfl, rfl⟩
  · cases h

/-- The day before a day is another one. -/
theorem ne_of_previous? (h : d.previous? = some e) : e ≠ d := by
  rintro rfl
  rw [previous?] at h
  split at h
  · have day := (parts_of_ofParts? h).2.2
    omega
  · split at h
    · have month := (parts_of_ofParts? h).2.1
      omega
    · have year := (parts_of_ofParts? h).1
      omega

/-- Every other day has a day before it, which is another day. -/
theorem exists_previous (later : d ≠ first) : ∃ yesterday, d.previous? = some yesterday ∧
    yesterday ≠ d := by
  obtain ⟨yesterday, before⟩ :=
    Option.ne_none_iff_exists'.mp (mt previous?_eq_none_iff.mp later)
  exact ⟨yesterday, before, ne_of_previous? before⟩

/-! ### Days in order -/

/-- A day comes before another in the order of the calendar. -/
def Before (d e : Date) : Prop :=
  d.year < e.year ∨ d.year = e.year ∧ (d.month < e.month ∨ d.month = e.month ∧ d.day < e.day)

/-- The day after a day: a later one, with no day between the two. -/
structure IsNext (d e : Date) : Prop where
  later : Before d e
  adjacent : ∀ x, Before d x → ¬ Before x e

theorem before_or_eq_or_before (d e : Date) : Before d e ∨ d = e ∨ Before e d := by
  by_cases same : d.year = e.year ∧ d.month = e.month ∧ d.day = e.day
  · exact .inr (.inl (eq_of_parts same.1 same.2.1 same.2.2))
  · unfold Before
    omega

/-- A day has one day after it at most. -/
theorem IsNext.unique {e' : Date} (h : IsNext d e) (h' : IsNext d e') : e = e' := by
  rcases before_or_eq_or_before e e' with before | same | before
  · exact absurd before (h'.adjacent e h.later)
  · exact same
  · exact absurd before (h.adjacent e' h'.later)

/-- And one day before it. -/
theorem IsNext.unique_left {d' : Date} (h : IsNext d e) (h' : IsNext d' e) : d = d' := by
  rcases before_or_eq_or_before d d' with before | same | before
  · exact absurd h'.later (h.adjacent d' before)
  · exact same
  · exact absurd h.later (h'.adjacent d before)

theorem IsNext.of_same_month (year : e.year = d.year) (month : e.month = d.month)
    (day : e.day = d.day + 1) : IsNext d e := by
  constructor
  · exact .inr ⟨year.symm, .inr ⟨month.symm, by omega⟩⟩
  · unfold Before
    omega

/-- Behind the last day of a month comes the first of the next. -/
theorem IsNext.of_next_month (year : e.year = d.year) (month : e.month = d.month + 1)
    (last : d.day = daysInMonth d.year d.month) (first : e.day = 1) : IsNext d e := by
  constructor
  · exact .inr ⟨year.symm, .inl (by omega)⟩
  · intro x after before
    obtain ⟨-, -, -, -, low, high⟩ := x.isDay
    unfold Before at after before
    by_cases same : x.month = d.month
    · rw [show x.year = d.year by omega, same] at high
      omega
    · omega

/-- Behind the last day of a year comes the first of the next. -/
theorem IsNext.of_next_year (year : e.year = d.year + 1) (december : d.month = 12)
    (last : d.day = 31) (january : e.month = 1) (first : e.day = 1) : IsNext d e := by
  constructor
  · exact .inl (by omega)
  · intro x after before
    obtain ⟨-, -, low, high, dayLow, dayHigh⟩ := x.bounds
    unfold Before at after before
    omega

/-- **The day before is the one that it is the day after.** -/
theorem previous?_eq_some_iff : e.previous? = some d ↔ IsNext d e := by
  have next : ∀ {d}, e.previous? = some d → IsNext d e := by
    intro d before
    obtain ⟨-, -, months, year, days, month⟩ := e.isDay
    rw [previous?] at before
    split at before
    next =>
        obtain ⟨year, month, day⟩ := parts_of_ofParts? before
        exact .of_same_month year.symm month.symm (by omega)
    next =>
        split at before
        next =>
            obtain ⟨year, month, day⟩ := parts_of_ofParts? before
            exact .of_next_month year.symm (by omega) (by rw [day, year, month]) (by omega)
        next =>
            obtain ⟨year, month, day⟩ := parts_of_ofParts? before
            exact .of_next_year (by omega) month day (by omega) (by omega)
  refine ⟨next, fun h => ?_⟩
  have later : e ≠ first := by
    rintro rfl
    obtain ⟨early, -, low, -, dayLow, -⟩ := d.bounds
    have before := h.later
    unfold Before first at before
    simp only at before
    omega
  obtain ⟨d', before, -⟩ := exists_previous later
  rw [before, (next before).unique_left h]

/-- A day with a later one has a day after it. -/
theorem exists_next? (later : Before d e) : ∃ d', d.next? = some d' := by
  rw [← Option.ne_none_iff_exists']
  intro none
  obtain ⟨early, late, months, year, days, month⟩ := d.isDay
  obtain ⟨-, last, -, high, -, dayHigh⟩ := e.bounds
  rw [next?] at none
  split at none
  next => exact ofParts?_eq_none_iff.mp none ⟨early, late, months, year, by omega, by omega⟩
  next =>
      split at none
      next within =>
          have some := (daysInMonth_bounds d.year (d.month + 1)).1
          exact ofParts?_eq_none_iff.mp none
            ⟨early, late, by omega, within, Nat.le_refl 1, by omega⟩
      next =>
          -- the last day of a year, behind which another day comes only in a later one
          have december : d.month = 12 := by omega
          have length : daysInMonth d.year d.month = 31 := by rw [december]; rfl
          unfold Before at later
          exact ofParts?_eq_none_iff.mp none
            ⟨by omega, by omega, by decide, by decide, by decide, by simp [daysInMonth]⟩

/-- **The day after is the next one.** -/
theorem next?_eq_some_iff : d.next? = some e ↔ IsNext d e := by
  have next : ∀ {e}, d.next? = some e → IsNext d e := by
    intro e after
    obtain ⟨-, -, months, year, days, month⟩ := d.isDay
    rw [next?] at after
    split at after
    next =>
        obtain ⟨year, month, day⟩ := parts_of_ofParts? after
        exact .of_same_month year month day
    next =>
        split at after
        next =>
            obtain ⟨year, month, day⟩ := parts_of_ofParts? after
            exact .of_next_month year month (by omega) day
        next =>
            obtain ⟨year, month, day⟩ := parts_of_ofParts? after
            have december : d.month = 12 := by omega
            have length : daysInMonth d.year d.month = 31 := by rw [december]; rfl
            exact .of_next_year year december (by omega) month day
  refine ⟨next, fun h => ?_⟩
  obtain ⟨e', after⟩ := exists_next? h.later
  rw [after, (next after).unique h]

/-! ### Texts of days -/

theorem number?_padded (width n : Nat) : number? (padded width n) = some n := by
  rw [padded, number?_replicate_append _ (decimal_ne_nil n), number?_decimal]

theorem padded_injective {width n m : Nat} (h : padded width n = padded width m) : n = m := by
  have numbers := congrArg number? h
  rw [number?_padded, number?_padded] at numbers
  exact Option.some.inj numbers

theorem isAsciiDigit_of_mem_padded {width n : Nat} {c : Char} (h : c ∈ padded width n) :
    isAsciiDigit c = true := by
  rcases List.mem_append.mp h with zero | digit
  · obtain rfl := List.eq_of_mem_replicate zero
    decide
  · exact isAsciiDigit_of_mem_decimal digit

/-- Month and day are written by two digits. -/
theorem length_padded_two {n : Nat} (h : n < 100) : (padded 2 n).length = 2 := by
  have short : (decimal n).length = 1 ∨ (decimal n).length = 2 := by
    rcases Nat.lt_or_ge n 10 with small | large
    · rw [decimal_of_lt small]
      exact .inl rfl
    · rw [decimal_of_le large, decimal_of_lt (by omega)]
      exact .inr rfl
  rw [padded, List.length_append, List.length_replicate]
  omega

/-- A sign is no digit. -/
theorem padded_ne_cons {width n : Nat} {c : Char} (sign : isAsciiDigit c = false)
    (text : List Char) : padded width n ≠ c :: text := by
  intro h
  have member : c ∈ padded width n := by simp [h]
  have digit := isAsciiDigit_of_mem_padded member
  rw [sign] at digit
  cases digit

/-- A year is written by its magnitude, with a sign in front unless it lies from 0 to 9999. -/
theorem yearText_cases (y : Int) :
    (y < 0 ∧ yearText y = '-' :: padded 4 y.natAbs) ∨
      (9999 < y ∧ yearText y = '+' :: padded 4 y.natAbs) ∨
      (0 ≤ y ∧ y ≤ 9999 ∧ yearText y = padded 4 y.natAbs) := by
  unfold yearText
  split
  next negative => exact .inl ⟨negative, rfl⟩
  next positive =>
      split
      next large => exact .inr (.inl ⟨large, rfl⟩)
      next small => exact .inr (.inr ⟨by omega, by omega, rfl⟩)

theorem yearText_injective {y z : Int} (h : yearText y = yearText z) : y = z := by
  have minus : ∀ n text, padded 4 n ≠ '-' :: text := fun n => padded_ne_cons (by decide)
  have plus : ∀ n text, padded 4 n ≠ '+' :: text := fun n => padded_ne_cons (by decide)
  have abs : ∀ {a b : Int}, padded 4 a.natAbs = padded 4 b.natAbs → a.natAbs = b.natAbs :=
    padded_injective
  obtain ⟨_, ey⟩ | ⟨_, ey⟩ | ⟨_, _, ey⟩ := yearText_cases y <;>
    obtain ⟨_, ez⟩ | ⟨_, ez⟩ | ⟨_, _, ez⟩ := yearText_cases z <;> rw [ey, ez] at h
  · have same := abs (List.cons.inj h).2
    omega
  · cases (List.cons.inj h).1
  · exact absurd h.symm (minus _ _)
  · cases (List.cons.inj h).1
  · have same := abs (List.cons.inj h).2
    omega
  · exact absurd h.symm (plus _ _)
  · exact absurd h (minus _ _)
  · exact absurd h (plus _ _)
  · have same := abs h
    omega

/-- **No two days have the same text.** -/
theorem text_injective (h : d.text = e.text) : d = e := by
  obtain ⟨-, -, -, months, -, days⟩ := d.bounds
  obtain ⟨-, -, -, months', -, days'⟩ := e.bounds
  have chars : d.chars = e.chars := String.ofList_injective h
  simp only [Date.chars] at chars
  obtain ⟨front, back⟩ := List.append_inj' chars (by
    simp [length_padded_two (show d.day < 100 by omega), length_padded_two (show e.day < 100 by omega)])
  obtain ⟨year, middle⟩ := List.append_inj' front (by
    simp [length_padded_two (show d.month < 100 by omega),
      length_padded_two (show e.month < 100 by omega)])
  exact eq_of_parts (yearText_injective year) (padded_injective (List.cons.inj middle).2)
    (padded_injective (List.cons.inj back).2)

/-- The text of a day is of digits and signs. -/
theorem digit_or_sign_of_mem_chars {c : Char} (h : c ∈ d.chars) :
    isAsciiDigit c = true ∨ c = '-' ∨ c = '+' := by
  have year : ∀ c ∈ yearText d.year, isAsciiDigit c = true ∨ c = '-' ∨ c = '+' := by
    intro c mem
    unfold yearText at mem
    split at mem
    · rcases List.mem_cons.mp mem with rfl | mem
      · exact .inr (.inl rfl)
      · exact .inl (isAsciiDigit_of_mem_padded mem)
    · split at mem
      · rcases List.mem_cons.mp mem with rfl | mem
        · exact .inr (.inr rfl)
        · exact .inl (isAsciiDigit_of_mem_padded mem)
      · exact .inl (isAsciiDigit_of_mem_padded mem)
  simp only [chars, List.mem_append, List.mem_cons] at h
  rcases h with (mem | rfl | mem) | rfl | mem
  · exact year c mem
  · exact .inr (.inl rfl)
  · exact .inl (isAsciiDigit_of_mem_padded mem)
  · exact .inr (.inl rfl)
  · exact .inl (isAsciiDigit_of_mem_padded mem)

end Date

end Enquiry
