import Enquiry.Text.Ranges

/-!
# Blank characters

`isBlank` is the white space of every script, `isAsciiBlank` the five blanks of a byte stream:
space, tab, line feed, form feed and carriage return. The vertical tab is blank as a character
and not as a byte.

`trimWith` removes what a test holds of from both ends of a list, and nothing in between.
-/

namespace Enquiry.Text

/-- The blank characters, as closed ranges in ascending order. -/
def blankRanges : List (Nat × Nat) :=
  [(0x9, 0xD), (0x20, 0x20), (0x85, 0x85), (0xA0, 0xA0), (0x1680, 0x1680), (0x2000, 0x200A),
    (0x2028, 0x2029), (0x202F, 0x202F), (0x205F, 0x205F), (0x3000, 0x3000)]

/-- White space of any script. -/
def isBlank (c : Char) : Bool := covers blankRanges c

/-- White space between the fields of a byte stream. -/
def isAsciiBlank (b : UInt8) : Bool :=
  b == 0x20 || b == 0x09 || b == 0x0A || b == 0x0C || b == 0x0D

/-- What is left once every `p` at the end is gone. -/
def trimEndWith (p : α → Bool) (xs : List α) : List α := (xs.reverse.dropWhile p).reverse

/-- What is left once every `p` at either end is gone. -/
def trimWith (p : α → Bool) (xs : List α) : List α := trimEndWith p (xs.dropWhile p)

/-- The text without the blanks around it. -/
def trim (text : List Char) : List Char := trimWith isBlank text

theorem trimWith_nil (p : α → Bool) : trimWith p [] = [] := rfl

end Enquiry.Text
