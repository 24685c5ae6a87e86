import Enquiry.Text.Utf8

/-!
# UTF-8 there and back

Reading the bytes of a character gives the character and leaves what follows
(`exists_next_encodeChar`), so the bytes of a text are well formed and mean the text
(`decode?_encode`).  A byte below `0x80` stands for itself and never inside another character
(`mem_encode_iff_of_lt`).

Bytes may also be no text.  What is read as a character are its bytes (`eq_encodeChar_of_next`), and
what is read as none is an ill-formed sequence (`isIllFormed_of_next`): the longest run of bytes
with which a character begins, or one byte.  **Any bytes are read as the text in which U+FFFD stands
for each ill-formed sequence** (`repaired_iff`).
-/

namespace Enquiry.Text.Utf8

theorem toNat_ofNat_of_lt {n : Nat} (h : n < 0x100) : (UInt8.ofNat n).toNat = n := by
  rw [UInt8.toNat_ofNat']
  omega

/-- A continuation byte within its bounds is read. -/
theorem continuation_cons {share low high more b : Nat} (bytes : List UInt8) (le : low ≤ b)
    (ge : b ≤ high) (byte : high < 0x100) :
    continuation share low high (more + 1) (UInt8.ofNat b :: bytes) =
      continuation (0x40 * share + (b - 0x80)) 0x80 0xBF more bytes := by
  rw [continuation, toNat_ofNat_of_lt (by omega), if_pos ⟨le, ge⟩]

/-- A lead is followed as it demands. -/
theorem next_of_lead {b : Nat} {lead : Lead} (bytes : List UInt8) (byte : b < 0x100)
    (high : 0x80 ≤ b) (found : Lead.ofByte? b = some lead) :
    next (UInt8.ofNat b) bytes = continuation lead.share lead.low lead.high lead.more bytes := by
  rw [next, toNat_ofNat_of_lt byte, if_neg (by omega), found]

/-! ### The demand of each lead -/

section

variable {n : Nat}

theorem lead_two (low : 0x80 ≤ n) (high : n < 0x800) :
    Lead.ofByte? (0xC0 + n / 0x40) = some ⟨1, n / 0x40, 0x80, 0xBF⟩ := by
  rw [Lead.ofByte?, if_pos (by omega), Nat.add_sub_cancel_left]

/-- The first continuation byte of three lies within the bounds of its lead, since no character is
a surrogate. -/
theorem lead_three (low : 0x800 ≤ n) (high : n < 0x10000) (valid : n < 0xD800 ∨ 0xDFFF < n) :
    ∃ least greatest, Lead.ofByte? (0xE0 + n / 0x1000) = some ⟨2, n / 0x1000, least, greatest⟩ ∧
      least ≤ 0x80 + n / 0x40 % 0x40 ∧ 0x80 + n / 0x40 % 0x40 ≤ greatest ∧ greatest < 0x100 := by
  unfold Lead.ofByte?
  rw [if_neg (by omega)]
  by_cases first : 0xE0 + n / 0x1000 = 0xE0
  · rw [if_pos first]
    exact ⟨0xA0, 0xBF, by simp; omega, by omega, by omega, by omega⟩
  · rw [if_neg first]
    by_cases surrogates : 0xE0 + n / 0x1000 = 0xED
    · rw [if_pos surrogates]
      exact ⟨0x80, 0x9F, by simp; omega, by omega, by omega, by omega⟩
    · rw [if_neg surrogates, if_pos (by omega)]
      exact ⟨0x80, 0xBF, by simp, by omega, by omega, by omega⟩

/-- The first continuation byte of four lies within the bounds of its lead. -/
theorem lead_four (low : 0x10000 ≤ n) (high : n < 0x110000) :
    ∃ least greatest, Lead.ofByte? (0xF0 + n / 0x40000) = some ⟨3, n / 0x40000, least, greatest⟩ ∧
      least ≤ 0x80 + n / 0x1000 % 0x40 ∧ 0x80 + n / 0x1000 % 0x40 ≤ greatest ∧
      greatest < 0x100 := by
  unfold Lead.ofByte?
  rw [if_neg (by omega), if_neg (by omega), if_neg (by omega), if_neg (by omega)]
  by_cases first : 0xF0 + n / 0x40000 = 0xF0
  · rw [if_pos first]
    exact ⟨0x90, 0xBF, by simp; omega, by omega, by omega, by omega⟩
  · rw [if_neg first]
    by_cases last : 0xF0 + n / 0x40000 = 0xF4
    · rw [if_neg (by omega), if_pos last]
      exact ⟨0x80, 0x8F, by simp; omega, by omega, by omega, by omega⟩
    · rw [if_pos (by omega)]
      exact ⟨0x80, 0xBF, by simp, by omega, by omega, by omega⟩

end

/-! ### Characters -/

theorem toNat_valid (c : Char) : c.toNat < 0xD800 ∨ (0xDFFF < c.toNat ∧ c.toNat < 0x110000) :=
  c.valid

/-- **The bytes of a character mean the character**, whatever follows. -/
theorem exists_next_encodeChar (c : Char) :
    ∃ b bytes, encodeChar c = b :: bytes ∧ ∀ rest, next b (bytes ++ rest) = (some c, rest) := by
  have valid := toNat_valid c
  have whole : Char.ofNat c.toNat = c := Char.ofNat_toNat c
  rw [encodeChar]
  generalize c.toNat = n at valid whole
  subst whole
  split
  next one =>
      refine ⟨_, _, rfl, fun rest => ?_⟩
      rw [next, toNat_ofNat_of_lt (by omega), if_pos one]
      rfl
  next =>
  split
  next two =>
      refine ⟨_, _, rfl, fun rest => ?_⟩
      rw [next_of_lead _ (by omega) (by omega) (lead_two (by omega) two)]
      simp only [List.cons_append, List.nil_append]
      rw [continuation_cons _ (by omega) (by omega) (by omega), continuation]
      have joined : 0x40 * (n / 0x40) + (0x80 + n % 0x40 - 0x80) = n := by omega
      rw [joined]
  next =>
  split
  next three =>
      obtain ⟨least, greatest, lead, le, ge, byte⟩ := lead_three (by omega) three (by omega)
      refine ⟨_, _, rfl, fun rest => ?_⟩
      rw [next_of_lead _ (by omega) (by omega) lead]
      simp only [List.cons_append, List.nil_append]
      rw [continuation_cons _ le ge byte, continuation_cons _ (by omega) (by omega) (by omega),
        continuation]
      have joined : 0x40 * (0x40 * (n / 0x1000) + (0x80 + n / 0x40 % 0x40 - 0x80)) +
          (0x80 + n % 0x40 - 0x80) = n := by omega
      rw [joined]
  next =>
      obtain ⟨least, greatest, lead, le, ge, byte⟩ := lead_four (n := n) (by omega) (by omega)
      refine ⟨_, _, rfl, fun rest => ?_⟩
      rw [next_of_lead _ (by omega) (by omega) lead]
      simp only [List.cons_append, List.nil_append]
      rw [continuation_cons _ le ge byte, continuation_cons _ (by omega) (by omega) (by omega),
        continuation_cons _ (by omega) (by omega) (by omega), continuation]
      have joined : 0x40 * (0x40 * (0x40 * (n / 0x40000) + (0x80 + n / 0x1000 % 0x40 - 0x80)) +
          (0x80 + n / 0x40 % 0x40 - 0x80)) + (0x80 + n % 0x40 - 0x80) = n := by omega
      rw [joined]

/-! ### Texts -/

theorem encode_cons (c : Char) (text : List Char) :
    encode (c :: text) = encodeChar c ++ encode text := rfl

theorem encode_append (front back : List Char) :
    encode (front ++ back) = encode front ++ encode back := List.flatMap_append

theorem read_encode (text : List Char) : read (encode text) = text.map some := by
  induction text with
  | nil => exact read_nil
  | cons c text ih =>
      obtain ⟨b, bytes, encoded, next⟩ := exists_next_encodeChar c
      rw [encode_cons, encoded, List.cons_append, read_cons, next, ih, List.map_cons]

/-- **The bytes of a text mean the text.** -/
theorem decode?_encode (text : List Char) : decode? (encode text) = some text := by
  rw [decode?, read_encode]
  induction text with
  | nil => rfl
  | cons c text ih => simp [List.mapM_cons, ih]

/-- A byte of ASCII is one character and no part of another. -/
theorem mem_encodeChar_iff_of_lt {b : UInt8} (h : b.toNat < 0x80) {c : Char} :
    b ∈ encodeChar c ↔ b.toNat = c.toNat := by
  have valid := toNat_valid c
  have byte : ∀ n, n < 0x100 → (b = UInt8.ofNat n ↔ b.toNat = n) := fun n small => by
    rw [← UInt8.toNat_inj, toNat_ofNat_of_lt small]
  rw [encodeChar]
  generalize c.toNat = n at valid
  split
  · rw [List.mem_singleton, byte _ (by omega)]
  · split
    · simp only [List.mem_cons, List.not_mem_nil, or_false]
      rw [byte _ (by omega), byte _ (by omega)]
      omega
    · split
      · simp only [List.mem_cons, List.not_mem_nil, or_false]
        rw [byte _ (by omega), byte _ (by omega), byte _ (by omega)]
        omega
      · simp only [List.mem_cons, List.not_mem_nil, or_false]
        rw [byte _ (by omega), byte _ (by omega), byte _ (by omega), byte _ (by omega)]
        omega

theorem mem_encode_iff_of_lt {b : UInt8} (h : b.toNat < 0x80) {text : List Char} :
    b ∈ encode text ↔ ∃ c ∈ text, b.toNat = c.toNat := by
  simp only [encode, List.mem_flatMap, mem_encodeChar_iff_of_lt h]

/-! ### What leads a character -/

section

variable {n : Nat} {b : UInt8} {c : Char} {share low high more : Nat} {lead : Lead}
  {bytes front back rest cont : List UInt8}

/-- What a lead can demand. -/
theorem Lead.of_ofByte? (found : Lead.ofByte? n = some lead) :
    (0xC2 ≤ n ∧ n ≤ 0xDF ∧ lead = ⟨1, n - 0xC0, 0x80, 0xBF⟩) ∨
    (∃ low high, 0xE0 ≤ n ∧ n ≤ 0xEF ∧ lead = ⟨2, n - 0xE0, low, high⟩ ∧
      0x80 ≤ low ∧ low ≤ high ∧ high ≤ 0xBF ∧ (n = 0xE0 → 0xA0 ≤ low) ∧
      (n = 0xED → high ≤ 0x9F)) ∨
    (∃ low high, 0xF0 ≤ n ∧ n ≤ 0xF4 ∧ lead = ⟨3, n - 0xF0, low, high⟩ ∧
      0x80 ≤ low ∧ low ≤ high ∧ high ≤ 0xBF ∧ (n = 0xF0 → 0x90 ≤ low) ∧
      (n = 0xF4 → high ≤ 0x8F)) := by
  unfold Lead.ofByte? at found
  split at found
  next two => exact .inl ⟨two.1, two.2, (Option.some.inj found).symm⟩
  next =>
  split at found
  next first =>
    obtain rfl := Option.some.inj found
    exact .inr (.inl ⟨0xA0, 0xBF, by omega, by omega, by simp [first], by omega⟩)
  next =>
  split at found
  next surrogates =>
    obtain rfl := Option.some.inj found
    exact .inr (.inl ⟨0x80, 0x9F, by omega, by omega, by simp [surrogates], by omega⟩)
  next =>
  split at found
  next three =>
    obtain rfl := Option.some.inj found
    exact .inr (.inl ⟨0x80, 0xBF, by omega, by omega, rfl, by omega⟩)
  next =>
  split at found
  next first =>
    obtain rfl := Option.some.inj found
    exact .inr (.inr ⟨0x90, 0xBF, by omega, by omega, by simp [first], by omega⟩)
  next =>
  split at found
  next four =>
    obtain rfl := Option.some.inj found
    exact .inr (.inr ⟨0x80, 0xBF, by omega, by omega, rfl, by omega⟩)
  next =>
  split at found
  next last =>
    obtain rfl := Option.some.inj found
    exact .inr (.inr ⟨0x80, 0x8F, by omega, by omega, by simp [last], by omega⟩)
  next => cases found

/-- The bounds that a lead sets are bounds of bytes, and some byte is within them. -/
theorem Lead.bounds_of_ofByte? (found : Lead.ofByte? n = some lead) :
    0x80 ≤ n ∧ lead.low ≤ lead.high ∧ lead.high < 0x100 := by
  rcases Lead.of_ofByte? found with ⟨_, _, rfl⟩ | ⟨_, _, _, _, rfl, _⟩ | ⟨_, _, _, _, rfl, _⟩ <;>
    simp only <;> omega

/-! ### Continuation bytes -/

/-- Bytes that may follow a lead: the first lies between `low` and `high`, the others between
`0x80` and `0xBF`. -/
def Continues : Nat → Nat → List UInt8 → Prop
  | _, _, [] => True
  | low, high, b :: bytes => (low ≤ b.toNat ∧ b.toNat ≤ high) ∧ Continues 0x80 0xBF bytes

/-- The code point that continuation bytes make of the share of their lead. -/
def codePoint : List UInt8 → Nat → Nat
  | [], share => share
  | b :: bytes, share => codePoint bytes (0x40 * share + (b.toNat - 0x80))

theorem Continues.of_append (good : Continues low high (front ++ back)) :
    Continues low high front := by
  induction front generalizing low high with
  | nil => trivial
  | cons b front ih => exact ⟨good.1, ih good.2⟩

/-- Bytes that may follow a lead can be followed by any number of others. -/
theorem exists_continues_append (some : low ≤ high) (byte : high < 0x100)
    (good : Continues low high cont) (k : Nat) :
    ∃ tail, tail.length = k ∧ Continues low high (cont ++ tail) := by
  have more : ∀ k, Continues 0x80 0xBF (List.replicate k 0x80) := by
    intro k
    induction k with
    | zero => trivial
    | succ k ih => exact ⟨by decide, ih⟩
  induction cont generalizing low high with
  | nil =>
      cases k with
      | zero => exact ⟨[], rfl, trivial⟩
      | succ k =>
          refine ⟨UInt8.ofNat low :: List.replicate k 0x80, by simp, ?_, more k⟩
          rw [toNat_ofNat_of_lt (by omega)]
          exact ⟨Nat.le_refl low, some⟩
  | cons b cont ih =>
      obtain ⟨tail, length, later⟩ := ih (by decide) (by decide) good.2
      exact ⟨tail, length, good.1, later⟩

/-- A character is read when as many bytes continue it as its lead demands. -/
theorem exists_of_continuation_some
    (read : continuation share low high more bytes = (some c, rest)) :
    ∃ cont, bytes = cont ++ rest ∧ cont.length = more ∧ Continues low high cont ∧
      c = Char.ofNat (codePoint cont share) := by
  induction more generalizing share low high bytes with
  | zero =>
      obtain ⟨char, rfl⟩ := Prod.mk.inj read
      exact ⟨[], rfl, rfl, trivial, (Option.some.inj char).symm⟩
  | succ more ih =>
      cases bytes with
      | nil => cases read
      | cons b bytes =>
          rw [continuation] at read
          split at read
          next within =>
              obtain ⟨cont, rfl, length, good, char⟩ := ih read
              refine ⟨b :: cont, rfl, by rw [List.length_cons, length], ⟨within, good⟩, ?_⟩
              rw [char, codePoint]
          next => cases read

/-- No character is read when fewer bytes continue it, in front of one that does not. -/
theorem exists_of_continuation_none
    (read : continuation share low high more bytes = (none, rest)) :
    ∃ cont, bytes = cont ++ rest ∧ cont.length < more ∧ Continues low high cont ∧
      ∀ b ∈ rest.head?, ¬ Continues low high (cont ++ [b]) := by
  induction more generalizing share low high bytes with
  | zero => cases (Prod.mk.inj read).1
  | succ more ih =>
      cases bytes with
      | nil =>
          cases read
          exact ⟨[], rfl, Nat.succ_pos more, trivial, by simp⟩
      | cons b bytes =>
          rw [continuation] at read
          split at read
          next within =>
              obtain ⟨cont, rfl, short, good, stops⟩ := ih read
              exact ⟨b :: cont, rfl, Nat.succ_lt_succ short, ⟨within, good⟩,
                fun d first longer => stops d first longer.2⟩
          next outside =>
              cases read
              refine ⟨[], rfl, Nat.succ_pos more, trivial, fun d first longer => ?_⟩
              obtain rfl := Option.some.inj first
              exact outside longer.1

/-! ### Characters from their bytes -/

/-- The bytes of the character with a code point. -/
theorem encodeChar_ofNat (valid : n.isValidChar) :
    (n < 0x80 → encodeChar (Char.ofNat n) = [UInt8.ofNat n]) ∧
    (0x80 ≤ n → n < 0x800 → encodeChar (Char.ofNat n) =
      [UInt8.ofNat (0xC0 + n / 0x40), UInt8.ofNat (0x80 + n % 0x40)]) ∧
    (0x800 ≤ n → n < 0x10000 → encodeChar (Char.ofNat n) =
      [UInt8.ofNat (0xE0 + n / 0x1000), UInt8.ofNat (0x80 + n / 0x40 % 0x40),
        UInt8.ofNat (0x80 + n % 0x40)]) ∧
    (0x10000 ≤ n → encodeChar (Char.ofNat n) =
      [UInt8.ofNat (0xF0 + n / 0x40000), UInt8.ofNat (0x80 + n / 0x1000 % 0x40),
        UInt8.ofNat (0x80 + n / 0x40 % 0x40), UInt8.ofNat (0x80 + n % 0x40)]) := by
  have code : (Char.ofNat n).toNat = n := by
    rw [Char.ofNat, dif_pos valid]
    rfl
  simp only [encodeChar, code]
  refine ⟨fun one => if_pos one, fun _ two => ?_, fun _ three => ?_, fun four => ?_⟩
  · rw [if_neg (by omega), if_pos two]
  · rw [if_neg (by omega), if_neg (by omega), if_pos three]
  · rw [if_neg (by omega), if_neg (by omega), if_neg (by omega)]

theorem ofNat_eq_of_toNat (h : n = b.toNat) : UInt8.ofNat n = b := by
  rw [h, UInt8.ofNat_toNat]

/-- **A lead and its continuation bytes are the bytes of a character.** -/
theorem encodeChar_codePoint (found : Lead.ofByte? b.toNat = some lead)
    (good : Continues lead.low lead.high cont) (all : cont.length = lead.more) :
    encodeChar (Char.ofNat (codePoint cont lead.share)) = b :: cont := by
  rcases Lead.of_ofByte? found with
    ⟨_, _, rfl⟩ | ⟨low, high, _, _, rfl, _⟩ | ⟨low, high, _, _, rfl, _⟩
  · match cont, all, good with
    | [x], _, ⟨bounds, _⟩ =>
        simp only [codePoint] at bounds ⊢
        rw [(encodeChar_ofNat (by unfold Nat.isValidChar; omega)).2.1 (by omega) (by omega)]
        simp only [List.cons.injEq, and_true]
        exact ⟨ofNat_eq_of_toNat (by omega), ofNat_eq_of_toNat (by omega)⟩
  · match cont, all, good with
    | [x, y], _, ⟨bounds, second, _⟩ =>
        simp only [codePoint] at bounds second ⊢
        rw [(encodeChar_ofNat (by unfold Nat.isValidChar; omega)).2.2.1 (by omega) (by omega)]
        simp only [List.cons.injEq, and_true]
        exact ⟨ofNat_eq_of_toNat (by omega), ofNat_eq_of_toNat (by omega),
          ofNat_eq_of_toNat (by omega)⟩
  · match cont, all, good with
    | [x, y, z], _, ⟨bounds, second, third, _⟩ =>
        simp only [codePoint] at bounds second third ⊢
        rw [(encodeChar_ofNat (by unfold Nat.isValidChar; omega)).2.2.2 (by omega)]
        simp only [List.cons.injEq, and_true]
        exact ⟨ofNat_eq_of_toNat (by omega), ofNat_eq_of_toNat (by omega),
          ofNat_eq_of_toNat (by omega), ofNat_eq_of_toNat (by omega)⟩

/-! ### Ill-formed sequences -/

/-- The bytes of some character begin with these. -/
def BeginsChar (bytes : List UInt8) : Prop := ∃ c, bytes <+: encodeChar c

/-- An ill-formed sequence in front of other bytes: no character stands there, and it is the longest
run of bytes with which a character begins, or a single byte when no character begins with it. -/
structure IsIllFormed (bad rest : List UInt8) : Prop where
  nonempty : bad ≠ []
  noChar : ∀ c, ¬ encodeChar c <+: bad ++ rest
  begins : bad.length = 1 ∨ BeginsChar bad
  longest : ∀ longer, longer <+: bad ++ rest → bad.length < longer.length → ¬ BeginsChar longer

/-- What is read as a character are the bytes of the character. -/
theorem eq_encodeChar_of_next (read : next b bytes = (some c, rest)) :
    b :: bytes = encodeChar c ++ rest := by
  rw [next] at read
  split at read
  next ascii =>
      obtain ⟨char, rfl⟩ := Prod.mk.inj read
      rw [← Option.some.inj char,
        (encodeChar_ofNat (by unfold Nat.isValidChar; omega)).1 ascii, ofNat_eq_of_toNat rfl]
      rfl
  next =>
      split at read
      next => cases (Prod.mk.inj read).1
      next lead found =>
          obtain ⟨cont, rfl, all, good, rfl⟩ := exists_of_continuation_some read
          rw [encodeChar_codePoint found good all]
          rfl

/-- A character that begins with a byte is read to its end. -/
theorem exists_next_of_beginsChar (begins : BeginsChar (b :: front)) :
    ∃ c tail, next b (front ++ tail) = (some c, []) := by
  obtain ⟨c, tail, whole⟩ := begins
  obtain ⟨first, bytes, encoded, read⟩ := exists_next_encodeChar c
  rw [encoded, List.cons_append] at whole
  obtain ⟨rfl, rfl⟩ := List.cons.inj whole
  have all := read []
  rw [List.append_nil] at all
  exact ⟨c, tail, all⟩

theorem next_of_ofByte? (found : Lead.ofByte? b.toNat = some lead) (bytes : List UInt8) :
    next b bytes = continuation lead.share lead.low lead.high lead.more bytes := by
  have bounds := Lead.bounds_of_ofByte? found
  rw [next, if_neg (by omega), found]

/-- Behind a lead stand bytes that continue it. -/
theorem continues_of_beginsChar (found : Lead.ofByte? b.toNat = some lead)
    (begins : BeginsChar (b :: front)) : Continues lead.low lead.high front := by
  obtain ⟨c, tail, read⟩ := exists_next_of_beginsChar begins
  rw [next_of_ofByte? found] at read
  obtain ⟨cont, same, -, good, -⟩ := exists_of_continuation_some read
  rw [List.append_nil] at same
  rw [← same] at good
  exact good.of_append

/-- A lead begins a character, with bytes that continue it and are no more than it demands. -/
theorem beginsChar_of_continues (found : Lead.ofByte? b.toNat = some lead)
    (good : Continues lead.low lead.high cont) (short : cont.length ≤ lead.more) :
    BeginsChar (b :: cont) := by
  obtain ⟨-, some, byte⟩ := Lead.bounds_of_ofByte? found
  obtain ⟨tail, length, whole⟩ := exists_continues_append some byte good (lead.more - cont.length)
  refine ⟨Char.ofNat (codePoint (cont ++ tail) lead.share), tail, ?_⟩
  rw [encodeChar_codePoint found whole (by rw [List.length_append]; omega), List.cons_append]

/-- **What is read as no character is an ill-formed sequence.** -/
theorem isIllFormed_of_next (read : next b bytes = (none, rest)) :
    ∃ bad, b :: bytes = bad ++ rest ∧ IsIllFormed bad rest := by
  have noChar : ∀ c, ¬ encodeChar c <+: b :: bytes := by
    rintro c ⟨tail, whole⟩
    obtain ⟨first, others, encoded, found⟩ := exists_next_encodeChar c
    rw [encoded, List.cons_append] at whole
    obtain ⟨rfl, rfl⟩ := List.cons.inj whole
    rw [found] at read
    cases (Prod.mk.inj read).1
  have multiple : ¬ b.toNat < 0x80 := fun ascii => by
    rw [next, if_pos ascii] at read
    cases (Prod.mk.inj read).1
  cases found : Lead.ofByte? b.toNat with
  | none =>
      have alone : rest = bytes := by
        rw [next, if_neg multiple, found] at read
        exact (Prod.mk.inj read).2.symm
      subst alone
      refine ⟨[b], rfl, by simp, noChar, .inl rfl, ?_⟩
      rintro longer ⟨_, split⟩ more begins
      obtain ⟨first, others, rfl⟩ :=
        List.exists_cons_of_ne_nil (List.ne_nil_of_length_pos (Nat.zero_lt_of_lt more))
      obtain ⟨rfl, -⟩ := List.cons.inj split
      obtain ⟨c, tail, read⟩ := exists_next_of_beginsChar begins
      rw [next, if_neg multiple, found] at read
      cases (Prod.mk.inj read).1
  | some lead =>
      rw [next_of_ofByte? found] at read
      obtain ⟨cont, rfl, short, good, stops⟩ := exists_of_continuation_none read
      refine ⟨b :: cont, rfl, by simp, noChar,
        .inr (beginsChar_of_continues found good (Nat.le_of_lt short)), ?_⟩
      -- a longer run has the byte in it that does not continue the character
      rintro longer inside more begins
      have covers : b :: cont <+: longer :=
        List.prefix_of_prefix_length_le (List.prefix_append _ _) inside (Nat.le_of_lt more)
      obtain ⟨beyond, rfl⟩ := covers
      obtain ⟨d, ds, rfl⟩ : ∃ d ds, beyond = d :: ds :=
        List.exists_cons_of_ne_nil fun none => by simp [none] at more
      have next : rest.head? = some d := by
        obtain ⟨behind, split⟩ := inside
        rw [List.append_assoc] at split
        rw [← List.append_cancel_left split]
        rfl
      have longer : Continues lead.low lead.high (cont ++ ([d] ++ ds)) :=
        continues_of_beginsChar found begins
      rw [← List.append_assoc] at longer
      exact stops d next longer.of_append

/-- There is one ill-formed sequence at most in front of some bytes. -/
theorem IsIllFormed.unique {bad bad' rest' : List UInt8} (h : IsIllFormed bad rest)
    (h' : IsIllFormed bad' rest') (same : bad ++ rest = bad' ++ rest') : bad = bad' := by
  have no_longer : ∀ {bad bad' rest rest' : List UInt8}, IsIllFormed bad rest →
      IsIllFormed bad' rest' → bad ++ rest = bad' ++ rest' → ¬ bad.length < bad'.length := by
    intro bad bad' rest rest' h h' same longer
    have some := List.length_pos_iff.mpr h.nonempty
    refine h.longest bad' ⟨rest', same.symm⟩ longer (h'.begins.resolve_left ?_)
    omega
  have length : bad.length = bad'.length :=
    Nat.le_antisymm (Nat.le_of_not_lt (no_longer h' h same.symm))
      (Nat.le_of_not_lt (no_longer h h' same))
  exact (List.append_inj same length).1

/-! ### Texts of any bytes -/

/-- The text of some bytes with U+FFFD in place of each ill-formed sequence. -/
inductive Repaired : List UInt8 → List Char → Prop
  | nil : Repaired [] []
  | char (c : Char) {rest : List UInt8} {text : List Char} (later : Repaired rest text) :
      Repaired (encodeChar c ++ rest) (c :: text)
  | illFormed {bad rest : List UInt8} {text : List Char} (here : IsIllFormed bad rest)
      (later : Repaired rest text) : Repaired (bad ++ rest) ('\uFFFD' :: text)

theorem decodeLossy_cons (b : UInt8) (bytes : List UInt8) :
    decodeLossy (b :: bytes) = (next b bytes).1.getD '\uFFFD' :: decodeLossy (next b bytes).2 := by
  rw [decodeLossy, read_cons, List.map_cons, decodeLossy]

theorem repaired_decodeLossy (bytes : List UInt8) : Repaired bytes (decodeLossy bytes) := by
  match bytes with
  | [] =>
    rw [decodeLossy, read_nil]
    exact .nil
  | b :: bytes =>
    have shorter := length_next_le b bytes
    rw [decodeLossy_cons]
    have later := repaired_decodeLossy (next b bytes).2
    rcases read : next b bytes with ⟨_ | c, rest⟩ <;> rw [read] at later
    · obtain ⟨bad, split, here⟩ := isIllFormed_of_next read
      rw [split]
      exact .illFormed here later
    · rw [eq_encodeChar_of_next read]
      exact .char c later
termination_by bytes.length
decreasing_by exact Nat.lt_succ_of_le shorter

/-- **Reading any bytes repairs them**, and there is no other way to do so. -/
theorem repaired_iff {text : List Char} : Repaired bytes text ↔ text = decodeLossy bytes := by
  constructor
  · intro h
    induction h with
    | nil => rw [decodeLossy, read_nil]; rfl
    | char c later ih =>
        obtain ⟨b, others, encoded, read⟩ := exists_next_encodeChar c
        rw [encoded, List.cons_append, decodeLossy_cons, read, ih]
        rfl
    | @illFormed bad rest text here later ih =>
        obtain ⟨b, bytes, rfl⟩ := List.exists_cons_of_ne_nil here.nonempty
        rw [List.cons_append, decodeLossy_cons]
        rcases read : next b (bytes ++ rest) with ⟨_ | c, rest'⟩
        · obtain ⟨bad', split, here'⟩ := isIllFormed_of_next read
          rw [← List.cons_append] at split
          obtain rfl := here.unique here' split
          obtain rfl := List.append_cancel_left split
          rw [ih]
          rfl
        · have front := eq_encodeChar_of_next read
          exact absurd ⟨rest', front.symm⟩ (here.noChar c)
  · rintro rfl
    exact repaired_decodeLossy bytes

end

end Enquiry.Text.Utf8
