import Enquiry.Text.Case

/-!
# What lower case keeps

Lower case is given character by character, except that a sigma looks at its neighbours
(`lowercaseOnto_cons`).  A text of characters that are their own lower case is so too
(`lowercase_of_isLowered`), as is one of ASCII without capitals (`isLowered_of_isPlain`), and such
a text stands in lower case wherever it stood before (`isInfix_lowercase`).  The characters below
the letters — controls, blanks, digits and most punctuation of ASCII — are kept, and no letter
becomes one of them (`mem_lowercase_iff_of_le`): the partners of letters are letters.  Where only
capitals of ASCII change, characters are lowered one by one (`lowercase_eq_map`).  In any text it
does not matter which letters of ASCII are capitals (`lowercase_map_toLower`): a small letter is
cased as its capital is, so that a sigma beside it takes the same form.

The partner of a letter is no letter that has a partner, so **lower case leaves nothing for a
second time**: every character of a text in lower case is its own lowercase form
(`isLowered_of_mem_lowercase`), and so is every part of such a text.  That no partner is a letter
of any run is checked for each two runs of the table (`CaseRun.avoids`), where they lie apart or
hold every other code point, one the odd ones and one the even ones.
-/

namespace Enquiry.Text

theorem lowercaseOnto_cons (afterCased : Bool) (c : Char) (cs : List Char) :
    lowercaseOnto [] afterCased (c :: cs) =
      lowercaseHead afterCased c cs ++ lowercaseOnto [] (casedAfter afterCased c) cs := by
  rw [lowercaseOnto, lowercaseOnto_eq]
  simp

/-! ### Characters that lower case keeps -/

/-- A character that is its own lowercase form wherever it stands. -/
structure IsLowered (c : Char) : Prop where
  ne_sigma : c ≠ 'Σ'
  char : lowercaseChar c = [c]

theorem lowercaseHead_of_isLowered {c : Char} (h : IsLowered c) (afterCased : Bool)
    (rest : List Char) : lowercaseHead afterCased c rest = [c] := by
  rw [lowercaseHead, if_neg h.ne_sigma, h.char]

/-- What is written for a text behind another is its lower case after a letter or not. -/
theorem exists_lowercaseOnto_append (front text : List Char) (afterCased : Bool) :
    ∃ written afterCased', lowercaseOnto [] afterCased (front ++ text) =
      written ++ lowercaseOnto [] afterCased' text := by
  induction front generalizing afterCased with
  | nil => exact ⟨[], afterCased, rfl⟩
  | cons c cs ih =>
      obtain ⟨written, afterCased', later⟩ := ih (casedAfter afterCased c)
      refine ⟨lowercaseHead afterCased c (cs ++ text) ++ written, afterCased', ?_⟩
      rw [List.cons_append, lowercaseOnto_cons, later, List.append_assoc]

/-- Such characters are kept in front of any others. -/
theorem exists_lowercaseOnto_of_isLowered {part : List Char} (kept : ∀ c ∈ part, IsLowered c)
    (rest : List Char) (afterCased : Bool) :
    ∃ afterCased', lowercaseOnto [] afterCased (part ++ rest) =
      part ++ lowercaseOnto [] afterCased' rest := by
  induction part generalizing afterCased with
  | nil => exact ⟨afterCased, rfl⟩
  | cons c cs ih =>
      obtain ⟨here, later⟩ := List.forall_mem_cons.mp kept
      obtain ⟨afterCased', e⟩ := ih later (casedAfter afterCased c)
      refine ⟨afterCased', ?_⟩
      rw [List.cons_append, lowercaseOnto_cons, lowercaseHead_of_isLowered here, e]
      rfl

/-- A text of such characters is its own lower case. -/
theorem lowercase_of_isLowered {text : List Char} (h : ∀ c ∈ text, IsLowered c) :
    lowercase text = text := by
  obtain ⟨afterCased, e⟩ := exists_lowercaseOnto_of_isLowered h [] false
  rw [lowercaseOnto, List.reverse_nil, List.append_nil] at e
  exact e

/-- Where such characters stand in a text, they stand in its lower case. -/
theorem isInfix_lowercase {part text : List Char} (kept : ∀ c ∈ part, IsLowered c)
    (h : part <:+: text) : part <:+: lowercase text := by
  obtain ⟨front, rest, rfl⟩ := h
  obtain ⟨written, afterCased, behind⟩ := exists_lowercaseOnto_append front (part ++ rest) false
  obtain ⟨afterCased', e⟩ := exists_lowercaseOnto_of_isLowered kept rest afterCased
  refine ⟨written, lowercaseOnto [] afterCased' rest, ?_⟩
  rw [lowercase, List.append_assoc, List.append_assoc, behind, e]

theorem isAsciiUpper_iff {c : Char} :
    isAsciiUpper c = true ↔ 0x41 ≤ c.toNat ∧ c.toNat ≤ 0x5A := by
  simp [isAsciiUpper, Char.le_def, UInt32.le_iff_toNat_le]

/-- An ASCII character that is no capital letter. -/
def IsPlain (c : Char) : Prop := c.toNat < 0x80 ∧ isAsciiUpper c = false

theorem isPlain_iff {c : Char} :
    IsPlain c ↔ c.toNat < 0x80 ∧ ¬ (0x41 ≤ c.toNat ∧ c.toNat ≤ 0x5A) := by
  rw [IsPlain, ← isAsciiUpper_iff, Bool.not_eq_true]

theorem isLowered_of_isPlain {c : Char} (h : IsPlain c) : IsLowered c := by
  constructor
  · rintro rfl
    exact absurd h.1 (by decide)
  · rw [lowercaseChar, if_pos h.1, h.2]
    rfl

/-! ### Characters below the letters -/

theorem toNat_ofNat {n : Nat} (h : n.isValidChar) : (Char.ofNat n).toNat = n := by
  rw [Char.ofNat, dif_pos h]
  rfl

/-- The partners in a run are characters beyond `@`. -/
def CaseRun.isProper (run : CaseRun) : Bool :=
  decide (0x40 < run.image) && (decide (run.image + (run.last - run.first) < 0xD800) ||
    (decide (0xDFFF < run.image) && decide (run.image + (run.last - run.first) < 0x110000)))

theorem lowercaseRuns_isProper : lowercaseRuns.all CaseRun.isProper = true := by decide +kernel

/-- A partner lies as far into its row as the letter does. -/
theorem CaseRun.image?_eq_some_iff {run : CaseRun} {n m : Nat} :
    run.image? n = some m ↔ (run.first ≤ n ∧ n ≤ run.last) ∧
      (n - run.first) % run.stride = 0 ∧ run.image + (n - run.first) = m := by
  simp only [CaseRun.image?, Option.ite_none_right_eq_some, Bool.and_eq_true, decide_eq_true_eq,
    beq_iff_eq, Option.some.injEq, and_assoc]

/-- The partner of a letter is a character beyond `@`. -/
theorem isValidChar_and_lt_of_image? {n m : Nat}
    (h : lowercaseRuns.findSome? (·.image? n) = some m) : m.isValidChar ∧ 0x40 < m := by
  obtain ⟨run, mem, image⟩ := List.exists_of_findSome?_eq_some h
  have proper := List.all_eq_true.mp lowercaseRuns_isProper run mem
  simp only [CaseRun.isProper, Bool.and_eq_true, Bool.or_eq_true, decide_eq_true_eq] at proper
  obtain ⟨within, -, place⟩ := CaseRun.image?_eq_some_iff.mp image
  unfold Nat.isValidChar
  omega

theorem isAsciiUpper_iff_val {c : Char} :
    isAsciiUpper c = true ↔ c.val ≥ 'A'.val ∧ c.val ≤ 'Z'.val := by
  simp only [isAsciiUpper, Bool.and_eq_true, decide_eq_true_eq, Char.le_def, ge_iff_le]

theorem toLower_of_not_isAsciiUpper {c : Char} (h : isAsciiUpper c = false) : c.toLower = c := by
  refine dif_neg ?_
  rw [← isAsciiUpper_iff_val, h]
  exact Bool.false_ne_true

/-- A small letter lies as far behind its capital as all others do. -/
theorem toNat_toLower {c : Char} (h : isAsciiUpper c = true) :
    c.toLower.toNat = c.toNat + 0x20 := by
  have small : c.val.toNat ≤ 0x5A := (isAsciiUpper_iff.mp h).2
  have step : ('a'.val - 'A'.val).toNat = 0x20 := by decide
  have lower : c.toLower.val = c.val + ('a'.val - 'A'.val) :=
    congrArg Char.val (dif_pos (isAsciiUpper_iff_val.mp h))
  show c.toLower.val.toNat = c.val.toNat + 0x20
  rw [lower, UInt32.toNat_add]
  omega

theorem lowercaseChar_of_lt {c : Char} (h : c.toNat < 0x80) : lowercaseChar c = [c.toLower] := by
  rw [lowercaseChar, if_pos h]
  cases upper : isAsciiUpper c with
  | false => rw [toLower_of_not_isAsciiUpper upper, if_neg Bool.false_ne_true]
  | true =>
      have small : c.toNat ≤ 0x5A := (isAsciiUpper_iff.mp upper).2
      have valid : (c.toNat + 0x20).isValidChar := by unfold Nat.isValidChar; omega
      have same : Char.ofNat (c.toNat + 0x20) = c.toLower := by
        rw [← Char.toNat_inj, toNat_ofNat valid, toNat_toLower upper]
      rw [if_pos rfl, same]

/-- Where only capitals of ASCII change, lower case is that of the characters one by one. -/
theorem lowercase_eq_map {text : List Char}
    (h : ∀ c ∈ text, c ≠ 'Σ' ∧ lowercaseChar c = [c.toLower]) :
    lowercase text = text.map Char.toLower := by
  have onto : ∀ afterCased, lowercaseOnto [] afterCased text = text.map Char.toLower := by
    induction text with
    | nil => intro _; rfl
    | cons c cs ih =>
        obtain ⟨⟨other, char⟩, later⟩ := List.forall_mem_cons.mp h
        intro afterCased
        rw [lowercaseOnto_cons, ih later, lowercaseHead, if_neg other, char]
        rfl
  exact onto false

/-! ### Capitals of ASCII -/

/-- What a capital becomes is a small letter. -/
theorem toLower_cases (c : Char) : c.toLower = c ∨
    (0x41 ≤ c.toNat ∧ c.toNat ≤ 0x5A) ∧ 0x61 ≤ c.toLower.toNat ∧ c.toLower.toNat ≤ 0x7A := by
  cases upper : isAsciiUpper c with
  | false => exact .inl (toLower_of_not_isAsciiUpper upper)
  | true =>
      have bounds := isAsciiUpper_iff.mp upper
      have small := toNat_toLower upper
      exact .inr ⟨bounds, by omega, by omega⟩

theorem isCased_toLower (c : Char) : isCased c.toLower = isCased c := by
  rcases toLower_cases c with same | ⟨capital, small⟩
  · rw [same]
  · have lower : 'a' ≤ c.toLower ∧ c.toLower ≤ 'z' := by
      simpa [Char.le_def, UInt32.le_iff_toNat_le] using small
    have upper : isAsciiUpper c = true := isAsciiUpper_iff.mpr capital
    simp [isCased, show c.toLower.toNat < 0x80 by omega, show c.toNat < 0x80 by omega, lower, upper]

/-- The characters of ASCII that case passes over are no letters. -/
theorem isCaseIgnorable_of_letter {c : Char} (ascii : c.toNat < 0x80)
    (letter : 0x41 ≤ c.toNat ∧ c.toNat ≤ 0x5A ∨ 0x61 ≤ c.toNat) : isCaseIgnorable c = false := by
  have codes : ∀ d ∈ ['\'', '.', ':', '^', '\x60'],
      ¬ (0x41 ≤ d.toNat ∧ d.toNat ≤ 0x5A ∨ 0x61 ≤ d.toNat) := by
    simp only [List.forall_mem_cons, List.not_mem_nil, false_implies, implies_true, and_true]
    decide
  have other : ∀ d ∈ ['\'', '.', ':', '^', '\x60'], c ≠ d := by
    rintro d mem rfl
    exact codes c mem letter
  simp only [List.forall_mem_cons] at other
  simp [isCaseIgnorable, ascii, other]

theorem isCaseIgnorable_toLower (c : Char) : isCaseIgnorable c.toLower = isCaseIgnorable c := by
  rcases toLower_cases c with same | ⟨capital, small⟩
  · rw [same]
  · rw [isCaseIgnorable_of_letter (by omega) (.inr small.1),
      isCaseIgnorable_of_letter (by omega) (.inl capital)]

theorem lowercaseChar_toLower (c : Char) : lowercaseChar c.toLower = lowercaseChar c := by
  rcases toLower_cases c with same | ⟨capital, small⟩
  · rw [same]
  · have kept : isAsciiUpper c.toLower = false := by
      rw [← Bool.not_eq_true, isAsciiUpper_iff]
      omega
    rw [lowercaseChar_of_lt (by omega), lowercaseChar_of_lt (by omega),
      toLower_of_not_isAsciiUpper kept]

theorem toLower_eq_sigma_iff {c : Char} : c.toLower = 'Σ' ↔ c = 'Σ' := by
  rcases toLower_cases c with same | ⟨capital, small⟩
  · rw [same]
  · constructor <;> intro sigma
    · rw [sigma] at small
      exact absurd small (by decide)
    · rw [sigma] at capital
      exact absurd capital (by decide)

theorem casedAhead_map_toLower (text : List Char) :
    casedAhead (text.map Char.toLower) = casedAhead text := by
  induction text with
  | nil => rfl
  | cons c cs ih =>
      rw [List.map_cons, casedAhead, casedAhead, isCaseIgnorable_toLower, isCased_toLower, ih]

/-- **Capitals of ASCII do not count for lower case**, also where a sigma looks at them. -/
theorem lowercase_map_toLower (text : List Char) :
    lowercase (text.map Char.toLower) = lowercase text := by
  -- what a sigma finds before it has to be the same in both texts at every step
  have onto : ∀ afterCased, lowercaseOnto [] afterCased (text.map Char.toLower) =
      lowercaseOnto [] afterCased text := by
    induction text with
    | nil => intro _; rfl
    | cons c cs ih =>
        intro afterCased
        have head : lowercaseHead afterCased c.toLower (cs.map Char.toLower) =
            lowercaseHead afterCased c cs := by
          simp only [lowercaseHead, toLower_eq_sigma_iff, casedAhead_map_toLower,
            lowercaseChar_toLower]
        have after : casedAfter afterCased c.toLower = casedAfter afterCased c := by
          rw [casedAfter, casedAfter, isCaseIgnorable_toLower, isCased_toLower]
        rw [List.map_cons, lowercaseOnto_cons, lowercaseOnto_cons, head, after, ih]
  exact onto false

/-! ### Partners have no partners -/

/-- No partner in a run is a letter of the other. -/
def CaseRun.avoids (run other : CaseRun) : Bool :=
  Nat.blt (run.image + (run.last - run.first)) other.first || (Nat.blt other.last run.image ||
    ((Nat.beq run.stride 2 || Nat.beq run.first run.last) && Nat.beq other.stride 2 &&
      Nat.beq ((run.image + other.first) % 2) 1))

theorem CaseRun.image?_of_avoids {run other : CaseRun} (h : run.avoids other = true) {n m : Nat}
    (image : run.image? n = some m) : other.image? m = none := by
  obtain ⟨within, step, place⟩ := CaseRun.image?_eq_some_iff.mp image
  rw [Option.eq_none_iff_forall_not_mem]
  intro k image'
  obtain ⟨within', step', -⟩ := CaseRun.image?_eq_some_iff.mp image'
  simp only [CaseRun.avoids, Bool.or_eq_true, Bool.and_eq_true, Nat.blt_eq, Nat.beq_eq] at h
  rcases h with before | behind | ⟨⟨stride | single, other⟩, parity⟩
  · omega
  · omega
  · rw [stride] at step
    rw [other] at step'
    omega
  · rw [other] at step'
    omega

theorem lowercaseRuns_avoid :
    (lowercaseRuns.all fun run => lowercaseRuns.all run.avoids) = true := by decide +kernel

/-- The partners in a run lie behind the capitals of ASCII, and none is one of the two letters with
rules of their own. -/
def CaseRun.isFinal (run : CaseRun) : Bool :=
  Nat.blt 0x5A run.image && run.avoids ⟨0x130, 0x130, 2, 0⟩ && run.avoids ⟨0x3A3, 0x3A3, 2, 0⟩

theorem lowercaseRuns_isFinal : lowercaseRuns.all CaseRun.isFinal = true := by decide +kernel

/-- The partner of a letter is kept by lower case. -/
theorem isLowered_of_image? {n m : Nat}
    (h : lowercaseRuns.findSome? (·.image? n) = some m) : IsLowered (Char.ofNat m) := by
  have toNat : (Char.ofNat m).toNat = m := toNat_ofNat (isValidChar_and_lt_of_image? h).1
  obtain ⟨run, mem, image⟩ := List.exists_of_findSome?_eq_some h
  have final := List.all_eq_true.mp lowercaseRuns_isFinal run mem
  simp only [CaseRun.isFinal, Bool.and_eq_true, Nat.blt_eq] at final
  obtain ⟨⟨behind, dotted⟩, sigma⟩ := final
  have far : 0x5A < m := by
    have place := (CaseRun.image?_eq_some_iff.mp image).2.2
    omega
  constructor
  · intro same
    have code : m = 0x3A3 := by rw [← toNat, same]; rfl
    have out := run.image?_of_avoids sigma image
    rw [code] at out
    cases out
  · have notDotted : Char.ofNat m ≠ 'İ' := by
      intro same
      have code : m = 0x130 := by rw [← toNat, same]; rfl
      have out := run.image?_of_avoids dotted image
      rw [code] at out
      cases out
    have unpaired : lowercaseRuns.findSome? (·.image? (Char.ofNat m).toNat) = none := by
      rw [toNat, List.findSome?_eq_none_iff]
      intro other memOther
      have apart := List.all_eq_true.mp lowercaseRuns_avoid run mem
      exact run.image?_of_avoids (List.all_eq_true.mp apart other memOther) image
    have lower : isAsciiUpper (Char.ofNat m) = false := by
      rw [← Bool.not_eq_true, isAsciiUpper_iff]
      omega
    rw [lowercaseChar, lower, if_neg notDotted, unpaired]
    simp

/-! ### Texts in lower case -/

/-- Whatever lower case makes of a character, it keeps. -/
theorem isLowered_of_mem_lowercaseHead {afterCased : Bool} {c d : Char} {rest : List Char}
    (h : d ∈ lowercaseHead afterCased c rest) : IsLowered d := by
  unfold lowercaseHead at h
  split at h
  next =>
      -- a sigma has two lowercase forms
      have forms : IsLowered 'ς' ∧ IsLowered 'σ' :=
        ⟨⟨by decide, rfl⟩, ⟨by decide, rfl⟩⟩
      split at h <;> obtain rfl := List.mem_singleton.mp h
      · exact forms.1
      · exact forms.2
  next notSigma =>
    unfold lowercaseChar at h
    split at h
    next ascii =>
        rw [List.mem_singleton] at h
        split at h
        next upper =>
            have bounds := isAsciiUpper_iff.mp upper
            have valid : (c.toNat + 0x20).isValidChar := by unfold Nat.isValidChar; omega
            subst h
            refine isLowered_of_isPlain (isPlain_iff.mpr ?_)
            rw [toNat_ofNat valid]
            omega
        next lower =>
            subst h
            exact isLowered_of_isPlain ⟨ascii, by simpa using lower⟩
    next beyond =>
      split at h
      next =>
          have parts : IsLowered 'i' ∧ IsLowered '\u0307' :=
            ⟨⟨by decide, rfl⟩, ⟨by decide, rfl⟩⟩
          rcases List.mem_cons.mp h with rfl | h
          · exact parts.1
          · obtain rfl := List.mem_singleton.mp h
            exact parts.2
      next notDotted =>
        split at h
        next m found =>
            obtain rfl := List.mem_singleton.mp h
            exact isLowered_of_image? found
        next unpaired =>
            obtain rfl := List.mem_singleton.mp h
            refine ⟨notSigma, ?_⟩
            rw [lowercaseChar, if_neg beyond, if_neg notDotted, unpaired]

/-- **Lower case leaves nothing to do.**  Every character of a text in lower case is its own
lowercase form. -/
theorem isLowered_of_mem_lowercase {text : List Char} {d : Char} (h : d ∈ lowercase text) :
    IsLowered d := by
  have onto : ∀ afterCased, d ∈ lowercaseOnto [] afterCased text → IsLowered d := by
    clear h
    induction text with
    | nil => intro _ mem; cases mem
    | cons c cs ih =>
        intro afterCased mem
        rw [lowercaseOnto_cons, List.mem_append] at mem
        rcases mem with mem | mem
        · exact isLowered_of_mem_lowercaseHead mem
        · exact ih _ mem
  exact onto false h

/-- A part of a text in lower case is its own lower case. -/
theorem lowercase_of_isInfix {part text : List Char} (h : part <:+: lowercase text) :
    lowercase part = part :=
  lowercase_of_isLowered fun _ mem => isLowered_of_mem_lowercase (h.subset mem)

end Enquiry.Text
