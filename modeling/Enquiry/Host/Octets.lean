import Enquiry.Text.Digit
import Enquiry.Text.Utf8

/-!
# Texts of a machine

Programs handle rows of bytes, whatever they stand for. A byte is written as the character of its
number, so that a text of ASCII is the row of its own characters.
-/

namespace Enquiry.Host

open Text

/-- A row of bytes, each written as the character of its number. -/
abbrev Octets := List Char

/-- The bytes of a text. -/
def octets (text : String) : Octets :=
  let chars := text.toList
  if chars.all fun c => c.toNat < 0x80 then chars
  else (Utf8.encode chars).map fun b => Char.ofNat b.toNat

/-- A row as bytes. -/
def bytesOf (o : Octets) : List UInt8 := o.map fun c => UInt8.ofNat c.toNat

/-- The text that a row is, as far as it is one. -/
def textOf (o : Octets) : String :=
  if o.all fun c => c.toNat < 0x80 then String.ofList o
  else String.ofList (Utf8.decodeLossy (bytesOf o))

/-- The decimal of a whole number. -/
def signed (n : Int) : Octets := if n < 0 then '-' :: decimal n.natAbs else decimal n.natAbs

end Enquiry.Host
