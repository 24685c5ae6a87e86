import Enquiry.Number.Word
import Enquiry.Text.Blank
import Enquiry.Text.Digit
import Enquiry.Text.Quoted
import Enquiry.Text.Search

/-!
# Values of settings

A setting is a text or a whole number. `ofVariable` reads the value of an environment variable:
blanks around it are dropped; `true`, `false`, a number with a point, an array in brackets, a
table in braces and a whole number are what they look like; a text may stand in quotes, with
escapes; and whatever is none of these is a text.
-/

namespace Enquiry

open Text Number

/-- A value that a source gives to a setting. -/
inductive SettingValue where
  | text (s : String)
  | integer (n : Int)
  /-- A truth value, a number with a point, a date, an array or a table: no setting takes them. -/
  | other
  deriving DecidableEq, Repr

namespace SettingValue

/-- The text, if it is one. -/
def text? : SettingValue → Option String
  | .text s => some s
  | _ => none

/-- The number, if it is one of 64 bits without a sign. -/
def natural? : SettingValue → Option Nat
  | .integer n => if 0 ≤ n ∧ n < wordBound then some n.toNat else none
  | _ => none

/-! ### Scalars without quotes -/

/-- A blank of ASCII. -/
def isAsciiGap (c : Char) : Bool :=
  c == ' ' || c == '\t' || c == '\n' || c == '\x0c' || c == '\r'

/-- A character that ends a scalar. -/
def isSeparator (c : Char) : Bool :=
  c == ',' || c == '[' || c == ']' || c == '\x7b' || c == '\x7d'

/-- A number without its sign. -/
def dropSign : List Char → List Char
  | '+' :: rest => rest
  | '-' :: rest => rest
  | unsigned => unsigned

def isDigits (text : List Char) : Bool := text.all isAsciiDigit

/-- An exponent, or nothing. -/
def isPower : List Char → Bool
  | [] => true
  | c :: rest => (c == 'e' || c == 'E') && !(dropSign rest).isEmpty && isDigits (dropSign rest)

/-- A decimal number with a point. -/
def isDecimal (text : List Char) : Bool :=
  let text := dropSign text
  let whole := text.takeWhile isAsciiDigit
  match text.dropWhile isAsciiDigit with
  | '.' :: rest =>
      (!whole.isEmpty || !(rest.takeWhile isAsciiDigit).isEmpty) &&
        isPower (rest.dropWhile isAsciiDigit)
  | _ => false

/-- A whole number of 64 bits: without a sign or with a plus up to `2 ^ 64 - 1`, with a minus down
to `-2 ^ 63`. -/
def integer? (text : List Char) : Option Int :=
  match text with
  | '-' :: rest =>
      (number? rest).bind fun n => if n ≤ signedWordBound then some (-(n : Int)) else none
  | '+' :: rest => (number? rest).bind fun n => if n < wordBound then some n else none
  | _ => (number? text).bind fun n => if n < wordBound then some n else none

/-- The value of a text without quotes and brackets. -/
def ofScalar (text : List Char) : SettingValue :=
  let text := trim text
  if text.contains '.' && isDecimal text then .other
  else match integer? text with
    | some n => .integer n
    | none => .text (String.ofList text)

/-! ### Values in variables -/

def skipGap (text : List Char) : List Char := text.dropWhile isAsciiGap

/-- A character of a key without quotes. -/
def isKeyChar (c : Char) : Bool := c.isAlphanum || c == '_' || c == '-'

/-- What follows the key of a table and the blanks around it. A key without quotes is of ASCII
letters, digits, underscores and hyphens. -/
def afterKey? (text : List Char) : Option (List Char) :=
  match skipGap text with
  | '"' :: rest => (readQuoted? rest).map fun (_, rest) => skipGap rest
  | bare =>
      if (bare.takeWhile isKeyChar).isEmpty then none
      else some (skipGap (bare.dropWhile isKeyChar))

mutual

/-- A value at the front of a text and what follows it. The first argument bounds the number of
steps. -/
def readValue? : Nat → List Char → Option (SettingValue × List Char)
  | 0, _ => none
  | steps + 1, chars =>
      let value? : Option (SettingValue × List Char) :=
        match skipGap chars with
        | 't' :: 'r' :: 'u' :: 'e' :: rest => some (.other, rest)
        | 'f' :: 'a' :: 'l' :: 's' :: 'e' :: rest => some (.other, rest)
        | '\x7b' :: rest => (readEntries? steps true rest).map (.other, ·)
        | '[' :: rest => (readEntries? steps false rest).map (.other, ·)
        | '"' :: rest =>
            (readQuoted? rest).map fun (s, rest) => (.text (String.ofList s), rest)
        | '\'' :: c :: '\'' :: rest => some (.text (String.ofList [c]), rest)
        | '\'' :: _ => none
        | bare =>
            some (ofScalar (bare.takeWhile (!isSeparator ·)), bare.dropWhile (!isSeparator ·))
      value?.map fun (v, rest) => (v, skipGap rest)

/-- The entries of an array, or with `keyed` of a table, and its closing bracket. -/
def readEntries? : Nat → Bool → List Char → Option (List Char)
  | 0, _, _ => none
  | steps + 1, keyed, chars =>
      let close := if keyed then '\x7d' else ']'
      match chars with
      | [] => none
      | c :: rest =>
          if c = close then some rest
          else
            let entry := if keyed then
                match afterKey? chars with
                | some ('=' :: rest) => readValue? steps rest
                | _ => none
              else readValue? steps chars
            match entry with
            | some (_, ',' :: rest) => readEntries? steps keyed rest
            | some (_, c :: rest) => if c = close then some rest else none
            | _ => none

end

/-- The value of an environment variable. -/
def ofVariable (text : String) : SettingValue :=
  match readValue? (2 * text.toList.length + 2) text.toList with
  | some (v, []) => v
  | _ => .text text

end SettingValue

end Enquiry
