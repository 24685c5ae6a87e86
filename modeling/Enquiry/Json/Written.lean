import Enquiry.Text.Digit

/-!
# JSON as it is written

`Written` is the shape of a JSON text: its brackets, its names and its scalars, with numbers still
in digits and strings as the code points they list, in which two escaped surrogates are not joined
yet. `read?` is the grammar of RFC 8259 and refuses everything else; what a number or a string
means, and whether it means anything, is decided by whoever uses it.
-/

namespace Enquiry.Json

open Text

/-- A number as it is written: its sign, the digits in front of the point, those behind it if
there is one, and the exponent if there is one, with `true` for a minus sign. -/
structure Numeral where
  negative : Bool
  whole : List Nat
  fraction : Option (List Nat)
  power : Option (Bool × List Nat)
  deriving DecidableEq, Repr

/-- The shape of a JSON text. -/
inductive Written where
  | null
  | bool (b : Bool)
  | number (n : Numeral)
  | string (points : List Nat)
  | array (items : List Written)
  | object (members : List (List Nat × Written))
  deriving Inhabited

namespace Written

/-- The blanks of JSON. -/
def isGap (c : Char) : Bool := c == ' ' || c == '\n' || c == '\t' || c == '\r'

def skipGap (text : List Char) : List Char := text.dropWhile isGap

/-! ### Strings -/

/-- The value of four hexadecimal digits. -/
def hex4? (a b c d : Char) : Option Nat := do
  some (0x1000 * (← hexValue? a) + 0x100 * (← hexValue? b) + 0x10 * (← hexValue? c) +
    (← hexValue? d))

/-- The code point that a one-letter escape stands for. -/
def simpleEscape? (c : Char) : Option Nat :=
  if c = '"' ∨ c = '\\' ∨ c = '/' then some c.toNat
  else if c = 'b' then some 0x08
  else if c = 'f' then some 0x0C
  else if c = 'n' then some 0x0A
  else if c = 'r' then some 0x0D
  else if c = 't' then some 0x09
  else none

/-- The code points of a string up to its closing quote, behind those of `done` in reverse, and
the text after it. -/
def readString? (done : List Nat) : List Char → Option (List Nat × List Char)
  | [] => none
  | '"' :: rest => some (done.reverse, rest)
  | '\\' :: 'u' :: a :: b :: c :: d :: rest =>
      match hex4? a b c d with
      | some n => readString? (n :: done) rest
      | none => none
  | '\\' :: c :: rest =>
      match simpleEscape? c with
      | some n => readString? (n :: done) rest
      | none => none
  | c :: rest => if c = '\\' ∨ c.toNat < 0x20 then none else readString? (c.toNat :: done) rest

/-! ### Numbers -/

/-- The digits at the front of a text and what follows them. -/
def readDigits (text : List Char) : List Nat × List Char :=
  ((text.takeWhile isAsciiDigit).filterMap digitValue?, text.dropWhile isAsciiDigit)

/-- One digit or more. -/
def readDigits? (text : List Char) : Option (List Nat × List Char) :=
  match readDigits text with
  | ([], _) => none
  | found => some found

/-- The digits in front of the point: no zero leads others. -/
def readWhole? (text : List Char) : Option (List Nat × List Char) :=
  match readDigits text with
  | ([], _) => none
  | (0 :: _ :: _, _) => none
  | found => some found

/-- The digits behind a point, if there is one. -/
def readFraction? : List Char → Option (Option (List Nat) × List Char)
  | '.' :: rest => (readDigits? rest).map fun (ds, rest) => (some ds, rest)
  | text => some (none, text)

/-- A sign, `true` for minus, if there is one. -/
def readSign : List Char → Bool × List Char
  | '-' :: rest => (true, rest)
  | '+' :: rest => (false, rest)
  | text => (false, text)

/-- The exponent, if there is one. -/
def readPower? (text : List Char) : Option (Option (Bool × List Nat) × List Char) :=
  match text with
  | c :: rest =>
      if c = 'e' ∨ c = 'E' then
        (readDigits? (readSign rest).2).map fun (ds, rest') =>
          (some ((readSign rest).1, ds), rest')
      else some (none, text)
  | [] => some (none, [])

/-- A number at the front of a text. -/
def readNumeral? (text : List Char) : Option (Numeral × List Char) := do
  let (negative, text) := match text with
    | '-' :: rest => (true, rest)
    | _ => (false, text)
  let (whole, text) ← readWhole? text
  let (fraction, text) ← readFraction? text
  let (power, text) ← readPower? text
  some (⟨negative, whole, fraction, power⟩, text)

/-! ### Values -/

mutual

/-- A value at the front of a text, whose brackets nest at most `levels` deep, and what follows
it. The first argument bounds the number of steps. -/
def readValue? : Nat → Nat → List Char → Option (Written × List Char)
  | 0, _, _ => none
  | steps + 1, levels, text =>
      match skipGap text with
      | 'n' :: 'u' :: 'l' :: 'l' :: rest => some (.null, rest)
      | 't' :: 'r' :: 'u' :: 'e' :: rest => some (.bool true, rest)
      | 'f' :: 'a' :: 'l' :: 's' :: 'e' :: rest => some (.bool false, rest)
      | '"' :: rest => (readString? [] rest).map fun (points, rest) => (.string points, rest)
      | '[' :: rest =>
          match levels, skipGap rest with
          | 0, _ => none
          | _ + 1, ']' :: rest => some (.array [], rest)
          | levels + 1, rest =>
              (readItems? steps levels rest).map fun (items, rest) => (.array items, rest)
      | '\x7b' :: rest =>
          match levels, skipGap rest with
          | 0, _ => none
          | _ + 1, '\x7d' :: rest => some (.object [], rest)
          | levels + 1, rest =>
              (readMembers? steps levels rest).map fun (members, rest) => (.object members, rest)
      | rest => (readNumeral? rest).map fun (n, rest) => (.number n, rest)

/-- The elements of an array up to its closing bracket. -/
def readItems? : Nat → Nat → List Char → Option (List Written × List Char)
  | 0, _, _ => none
  | steps + 1, levels, text =>
      match readValue? steps levels text with
      | none => none
      | some (v, rest) =>
          match skipGap rest with
          | ',' :: rest =>
              (readItems? steps levels rest).map fun (items, rest) => (v :: items, rest)
          | ']' :: rest => some ([v], rest)
          | _ => none

/-- The members of an object up to its closing brace. -/
def readMembers? : Nat → Nat → List Char → Option (List (List Nat × Written) × List Char)
  | 0, _, _ => none
  | steps + 1, levels, text =>
      match skipGap text with
      | '"' :: rest =>
          match readString? [] rest with
          | none => none
          | some (name, rest) =>
              match skipGap rest with
              | ':' :: rest =>
                  match readValue? steps levels rest with
                  | none => none
                  | some (v, rest) =>
                      match skipGap rest with
                      | ',' :: rest =>
                          (readMembers? steps levels rest).map fun (members, rest) =>
                            ((name, v) :: members, rest)
                      | '\x7d' :: rest => some ([(name, v)], rest)
                      | _ => none
              | _ => none
      | _ => none

end

/-- The shape of a whole text whose brackets nest at most `levels` deep. Every two steps read at
least one character, so the bound on the steps is never met. -/
def read? (levels : Nat) (text : List Char) : Option Written :=
  match readValue? (2 * text.length + 2) levels text with
  | some (w, rest) => if (skipGap rest).isEmpty then some w else none
  | none => none

end Written

end Enquiry.Json
