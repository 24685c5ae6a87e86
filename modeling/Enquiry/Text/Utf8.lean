/-!
# UTF-8

`encode` writes characters as bytes. `next` reads one character, or the longest ill-formed
sequence at the front of some bytes: a byte that cannot lead, or a lead with those of its
continuation bytes that are there. `decode?` accepts well-formed bytes only; `decodeLossy` puts
U+FFFD in place of each ill-formed sequence.
-/

namespace Enquiry.Text.Utf8

/-- The bytes of one character. -/
def encodeChar (c : Char) : List UInt8 :=
  let n := c.toNat
  if n < 0x80 then [UInt8.ofNat n]
  else if n < 0x800 then [UInt8.ofNat (0xC0 + n / 0x40), UInt8.ofNat (0x80 + n % 0x40)]
  else if n < 0x10000 then
    [UInt8.ofNat (0xE0 + n / 0x1000), UInt8.ofNat (0x80 + n / 0x40 % 0x40),
      UInt8.ofNat (0x80 + n % 0x40)]
  else
    [UInt8.ofNat (0xF0 + n / 0x40000), UInt8.ofNat (0x80 + n / 0x1000 % 0x40),
      UInt8.ofNat (0x80 + n / 0x40 % 0x40), UInt8.ofNat (0x80 + n % 0x40)]

/-- The bytes of a text. -/
def encode (text : List Char) : List UInt8 := text.flatMap encodeChar

/-- What a lead byte asks for: how many continuation bytes follow, its own share of the code
point, and the bounds of the first continuation byte. -/
structure Lead where
  more : Nat
  share : Nat
  low : Nat
  high : Nat

/-- The demand of a byte that can lead a character of two to four bytes. -/
def Lead.ofByte? (b : Nat) : Option Lead :=
  if 0xC2 ≤ b ∧ b ≤ 0xDF then some ⟨1, b - 0xC0, 0x80, 0xBF⟩
  else if b = 0xE0 then some ⟨2, 0, 0xA0, 0xBF⟩
  else if b = 0xED then some ⟨2, 0xD, 0x80, 0x9F⟩
  else if 0xE1 ≤ b ∧ b ≤ 0xEF then some ⟨2, b - 0xE0, 0x80, 0xBF⟩
  else if b = 0xF0 then some ⟨3, 0, 0x90, 0xBF⟩
  else if 0xF1 ≤ b ∧ b ≤ 0xF3 then some ⟨3, b - 0xF0, 0x80, 0xBF⟩
  else if b = 0xF4 then some ⟨3, 4, 0x80, 0x8F⟩
  else none

/-- Reads `more` continuation bytes, of which the first lies between `low` and `high`. Stops in
front of a byte that does not continue the character. -/
def continuation (share low high : Nat) : Nat → List UInt8 → Option Char × List UInt8
  | 0, bytes => (some (Char.ofNat share), bytes)
  | _ + 1, [] => (none, [])
  | more + 1, b :: bytes =>
      if low ≤ b.toNat ∧ b.toNat ≤ high then
        continuation (0x40 * share + (b.toNat - 0x80)) 0x80 0xBF more bytes
      else (none, b :: bytes)

/-- The character that begins with byte `b`, or `none` for an ill-formed sequence, and the bytes
after it. -/
def next (b : UInt8) (bytes : List UInt8) : Option Char × List UInt8 :=
  if b.toNat < 0x80 then (some (Char.ofNat b.toNat), bytes)
  else match Lead.ofByte? b.toNat with
    | none => (none, bytes)
    | some lead => continuation lead.share lead.low lead.high lead.more bytes

theorem length_continuation_le (share low high more : Nat) (bytes : List UInt8) :
    (continuation share low high more bytes).2.length ≤ bytes.length := by
  induction more generalizing share low high bytes with
  | zero => simp [continuation]
  | succ more ih =>
      cases bytes with
      | nil => simp [continuation]
      | cons b bytes =>
          rw [continuation]
          split
          · exact Nat.le_succ_of_le (ih _ _ _ _)
          · simp

/-- Reading goes forward. -/
theorem length_next_le (b : UInt8) (bytes : List UInt8) :
    (next b bytes).2.length ≤ bytes.length := by
  unfold next
  split
  · simp
  · split
    · simp
    · exact length_continuation_le _ _ _ _ _

/-- The characters of some bytes, `none` for each ill-formed sequence, after those of `done` in
reverse. -/
def readOnto (done : List (Option Char)) : List UInt8 → List (Option Char)
  | [] => done.reverse
  | b :: bytes => readOnto ((next b bytes).1 :: done) (next b bytes).2
termination_by bytes => bytes.length
decreasing_by exact Nat.lt_succ_of_le (length_next_le b bytes)

/-- The characters of some bytes, `none` for each ill-formed sequence. -/
def read (bytes : List UInt8) : List (Option Char) := readOnto [] bytes

/-- The text of well-formed bytes. -/
def decode? (bytes : List UInt8) : Option (List Char) := (read bytes).mapM id

/-- The text of any bytes, each ill-formed sequence shown as U+FFFD. -/
def decodeLossy (bytes : List UInt8) : List Char := (read bytes).map (·.getD '\uFFFD')

theorem readOnto_eq (done : List (Option Char)) (bytes : List UInt8) :
    readOnto done bytes = done.reverse ++ readOnto [] bytes := by
  match bytes with
  | [] => simp [readOnto]
  | b :: bytes =>
      rw [readOnto, readOnto_eq, readOnto, readOnto_eq [(next b bytes).1]]
      simp
termination_by bytes.length
decreasing_by all_goals exact Nat.lt_succ_of_le (length_next_le b bytes)

@[simp] theorem read_nil : read [] = [] := by simp [read, readOnto]

theorem read_cons (b : UInt8) (bytes : List UInt8) :
    read (b :: bytes) = (next b bytes).1 :: read (next b bytes).2 := by
  rw [read, readOnto, readOnto_eq]; rfl

end Enquiry.Text.Utf8
