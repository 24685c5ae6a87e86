import Enquiry.Text.Digit

/-!
# Quoted strings with escapes

A string stands between quotes. Behind a backslash a letter stands for a control character, and
`u` or `U` with four or eight hexadecimal digits for the character with that code point. Control
characters other than the tab do not stand for themselves.
-/

namespace Enquiry.Text

/-- The characters that a one-letter escape stands for. -/
def escapedChar? (c : Char) : Option Char :=
  if c = '"' ∨ c = '\\' then some c
  else if c = 'b' then some '\x08'
  else if c = 'f' then some '\x0c'
  else if c = 'n' then some '\n'
  else if c = 'r' then some '\r'
  else if c = 't' then some '\t'
  else none

/-- The character with a code point, unless it is a surrogate or none at all. -/
def charOf? (n : Nat) : Option Char :=
  if n < 0xD800 ∨ (0xDFFF < n ∧ n < 0x110000) then some (Char.ofNat n) else none

/-- The character that a row of hexadecimal digits names. -/
def hexNamed? (digits : List Char) : Option Char :=
  (digits.foldlM (fun n c => (hexValue? c).map (16 * n + ·)) 0).bind charOf?

/-- A character that may stand for itself in quotes. -/
def isQuotable (c : Char) : Bool := c == '\t' || (0x20 ≤ c.toNat && c.toNat != 0x7F)

/-- The text that stands in quotes, with its escapes resolved, behind the characters of `done` in
reverse. -/
def unescapeOnto? (done : List Char) : List Char → Option (List Char)
  | [] => some done.reverse
  | '\\' :: 'u' :: a :: b :: c :: d :: rest =>
      match hexNamed? [a, b, c, d] with
      | some ch => unescapeOnto? (ch :: done) rest
      | none => none
  | '\\' :: 'U' :: a :: b :: c :: d :: e :: f :: g :: h :: rest =>
      match hexNamed? [a, b, c, d, e, f, g, h] with
      | some ch => unescapeOnto? (ch :: done) rest
      | none => none
  | '\\' :: c :: rest =>
      match escapedChar? c with
      | some ch => unescapeOnto? (ch :: done) rest
      | none => none
  | c :: rest => if isQuotable c && c != '\\' then unescapeOnto? (c :: done) rest else none

/-- The text up to the closing quote, escapes left as they are, and what follows the quote. -/
def breakQuoted? (done : List Char) : List Char → Option (List Char × List Char)
  | [] => none
  | '"' :: rest => some (done.reverse, rest)
  | '\\' :: c :: rest => breakQuoted? (c :: '\\' :: done) rest
  | c :: rest => breakQuoted? (c :: done) rest

/-- Reads a quoted string behind its opening quote. -/
def readQuoted? (text : List Char) : Option (List Char × List Char) :=
  (breakQuoted? [] text).bind fun (inside, rest) => (unescapeOnto? [] inside).map (·, rest)

end Enquiry.Text
