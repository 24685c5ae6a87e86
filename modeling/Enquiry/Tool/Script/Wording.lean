import Enquiry.Text.Blank
import Enquiry.Text.Case
import Enquiry.Text.Search

/-!
# Work on texts

What can be done with a text as a row of characters: cutting it into parts, searching it, changing
its case, and putting it into a field of some width.
-/

namespace Enquiry.Tool.Script

open Text

/-- A blank of any script, or a separator of ASCII. -/
def isSpace (c : Char) : Bool := isBlank c || (0x1C ≤ c.toNat && c.toNat ≤ 0x1F)

/-! ### Case -/

/-- A character in upper case. -/
def upperChar (c : Char) : List Char :=
  let n := c.toNat
  if n < 0x80 then [c.toUpper]
  else if n = 0xDF then ['S', 'S']
  else if n = 0xFF then ['\u0178']
  else if n = 0xB5 ∨ n = 0x3C2 then [if n = 0xB5 then '\u039C' else '\u03A3']
  else if (0xE0 ≤ n ∧ n ≤ 0xFE ∧ n ≠ 0xF7) ∨ (0x3B1 ≤ n ∧ n ≤ 0x3C9) ∨ (0x430 ≤ n ∧ n ≤ 0x44F) then
    [Char.ofNat (n - 32)]
  else if 0x450 ≤ n ∧ n ≤ 0x45F then [Char.ofNat (n - 80)]
  else
    let above := Char.ofNat (n - 1)
    if lowercaseChar above == [c] then [above] else [c]

def uppercase (text : List Char) : List Char := text.flatMap upperChar

def isUpperChar (c : Char) : Bool := lowercaseChar c != [c]

def isLowerChar (c : Char) : Bool := upperChar c != [c]

def isLetter (c : Char) : Bool :=
  c.isAlpha || (0x80 ≤ c.toNat && (isUpperChar c || isLowerChar c || 0x250 ≤ c.toNat) && !isSpace c)

/-- Words with their first letters in upper case. The first argument says whether a letter stands
in front. -/
def titled : Bool → List Char → List Char
  | _, [] => []
  | inWord, c :: rest =>
      (if inWord then lowercaseChar c else upperChar c) ++ titled (isLetter c) rest

/-! ### Parts -/

/-- The parts of a text between blanks, at most so many and the rest. The first argument bounds
their number. -/
def wordParts (blank : Char → Bool) : Nat → Option Nat → List Char → List (List Char)
  | 0, _, _ => []
  | n + 1, limit, text =>
      match text.dropWhile blank with
      | [] => []
      | text =>
          match limit with
          | some 0 => [(text.reverse.dropWhile blank).reverse]
          | limit =>
              let word := text.takeWhile fun c => !blank c
              word :: wordParts blank n (limit.map (· - 1)) (text.drop word.length)

/-- The text in front of a mark and what follows it, if the mark stands in the text. -/
def cutAt? (mark : List Char) : List Char → List Char → Option (List Char × List Char)
  | done, text =>
      match afterStart? mark text, text with
      | some rest, _ => some (done.reverse, rest)
      | none, [] => none
      | none, c :: rest => cutAt? mark (c :: done) rest

/-- The text in front of the last mark and what follows it. -/
def cutAtLast? (mark text : List Char) : Option (List Char × List Char) :=
  (cutAt? mark.reverse [] text.reverse).map fun (behind, before) => (before.reverse, behind.reverse)

/-- The parts of a text between marks, at most so many and the rest. The first argument bounds their
number. -/
def markParts (mark : List Char) : Nat → Option Nat → List Char → List (List Char)
  | 0, _, text => [text]
  | _, some 0, text => [text]
  | n + 1, limit, text =>
      match cutAt? mark [] text with
      | none => [text]
      | some (before, rest) => before :: markParts mark n (limit.map (· - 1)) rest

/-- The lines of a text, with their ends if wanted. -/
def lineParts (keep : Bool) : List Char → List Char → List (List Char)
  | [], [] => []
  | done, [] => [done.reverse]
  | done, '\r' :: '\n' :: rest =>
      (if keep then ('\n' :: '\r' :: done).reverse else done.reverse) :: lineParts keep [] rest
  | done, c :: rest =>
      if c = '\n' ∨ c = '\r' then
        (if keep then (c :: done).reverse else done.reverse) :: lineParts keep [] rest
      else lineParts keep (c :: done) rest

/-- A text with something put in for a mark, at most so often. The first argument bounds the number
of steps. -/
def replaced (mark put : List Char) : Nat → Option Nat → List Char → List Char
  | 0, _, text => text
  | _, some 0, text => text
  | n + 1, limit, text =>
      match mark, text with
      | [], [] => put
      | [], c :: rest => put ++ c :: replaced mark put n (limit.map (· - 1)) rest
      | mark, text =>
          match cutAt? mark [] text with
          | none => text
          | some (before, rest) =>
              before ++ put ++ replaced mark put n (limit.map (· - 1)) rest

/-- Where a text stands in another one. -/
def placeOf? (word text : List Char) : Option Nat := (cutAt? word [] text).map (·.1.length)

/-- Where a text stands in another one for the last time. -/
def lastPlaceOf? (word text : List Char) : Option Nat := (cutAtLast? word text).map (·.1.length)

/-- How often a text stands in another one. -/
def occurrences (word text : List Char) : Nat :=
  if word.isEmpty then text.length + 1 else (markParts word text.length none text).length - 1

/-! ### Fields -/

/-- Fills a field: with as many characters on the left as the side says. -/
def fieldOf (side : Char) (fill : Char) (width : Nat) (text : List Char) : List Char :=
  let missing := width - text.length
  let fill (n : Nat) : List Char := List.replicate n fill
  if side = '<' then text ++ fill missing
  else if side = '>' then fill missing ++ text
  else
    let left := missing / 2 + (if missing % 2 = 1 ∧ width % 2 = 1 then 1 else 0)
    fill left ++ text ++ fill (missing - left)

/-- Zeros in front of digits, behind a sign. -/
def zeroFilled (width : Nat) (text : List Char) : List Char :=
  let zeros := List.replicate (width - text.length) '0'
  match text with
  | c :: rest => if c = '+' ∨ c = '-' then c :: zeros ++ rest else zeros ++ text
  | [] => zeros

end Enquiry.Tool.Script
