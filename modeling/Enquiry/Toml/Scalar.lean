import Enquiry.Calendar
import Enquiry.Number.Binary64
import Enquiry.Number.Word
import Enquiry.Settings.Value
import Enquiry.Text.Quoted

/-!
# Scalars of TOML

Strings, whole numbers, numbers with a point or an exponent, truth values, dates and times. Each
reader takes a text with the scalar at its front and gives the scalar and what follows it. Only
strings and whole numbers keep their value.

A whole number has 63 bits and a sign. It may be hexadecimal, octal or binary behind `0x`, `0o` or
`0b`, and single underscores may stand between its digits.
-/

namespace Enquiry.Toml

open Text Number

/-- A blank inside a line. -/
def isGap (c : Char) : Bool := c == ' ' || c == '\t'

def skipGap (text : List Char) : List Char := text.dropWhile isGap

/-! ### Strings -/

/-- A text without the line feed, or carriage return and line feed, at its front. -/
def dropLineEnd : List Char → List Char
  | '\n' :: rest => rest
  | '\r' :: '\n' :: rest => rest
  | text => text

/-- Line ends as line feeds; a carriage return alone is refused. -/
def unifyLines? (done : List Char) : List Char → Option (List Char)
  | [] => some done.reverse
  | '\r' :: '\n' :: rest => unifyLines? ('\n' :: done) rest
  | c :: rest => if c = '\r' then none else unifyLines? (c :: done) rest

/-- The inside of a string on many lines and what follows its closing quotes. Up to two further
quotes in front of those belong to the string. With `escapes` a backslash protects the character
behind it. -/
def breakLong? (quote : Char) (escapes : Bool) (done : List Char) :
    List Char → Option (List Char × List Char)
  | [] => none
  | c :: rest =>
      if c = quote then
        match rest with
        | d :: e :: rest' =>
            if d = quote ∧ e = quote then
              let extra := (rest'.take 2).takeWhile (· == quote)
              some (done.reverse ++ extra, rest'.drop extra.length)
            else breakLong? quote escapes (c :: done) rest
        | _ => none
      else if escapes && c == '\\' then
        match rest with
        | [] => none
        | d :: rest => breakLong? quote escapes (d :: c :: done) rest
      else breakLong? quote escapes (c :: done) rest

/-- The text of a string on many lines, with its escapes resolved. A backslash at the end of a
line drops the line end and all blanks and line ends behind it; `skipping` says that this is
going on. -/
def unescapeLong? (skipping : Bool) (done : List Char) : List Char → Option (List Char)
  | [] => some done.reverse
  | '\\' :: 'u' :: a :: b :: c :: d :: rest =>
      match hexNamed? [a, b, c, d] with
      | some ch => unescapeLong? false (ch :: done) rest
      | none => none
  | '\\' :: 'U' :: a :: b :: c :: d :: e :: f :: g :: h :: rest =>
      match hexNamed? [a, b, c, d, e, f, g, h] with
      | some ch => unescapeLong? false (ch :: done) rest
      | none => none
  | '\\' :: c :: rest =>
      match escapedChar? c with
      | some ch => unescapeLong? false (ch :: done) rest
      | none =>
          if ((c :: rest).dropWhile isGap).head? = some '\n' then unescapeLong? true done rest
          else none
  | c :: rest =>
      if skipping && (isGap c || c == '\n') then unescapeLong? true done rest
      else if (isQuotable c && c != '\\') || c == '\n' then unescapeLong? false (c :: done) rest
      else none

/-- A string between three quotes, behind the opening ones. -/
def readLong? (text : List Char) : Option (List Char × List Char) := do
  let (inside, rest) ← breakLong? '"' true [] (dropLineEnd text)
  let unified ← unifyLines? [] inside
  let chars ← unescapeLong? false [] unified
  some (chars, rest)

/-- A string between three apostrophes, behind the opening ones. -/
def readLongLiteral? (text : List Char) : Option (List Char × List Char) := do
  let (inside, rest) ← breakLong? '\'' false [] (dropLineEnd text)
  let unified ← unifyLines? [] inside
  if unified.all fun c => isQuotable c || c == '\n' then some (unified, rest) else none

/-- A string between apostrophes, behind the opening one. It has no escapes. -/
def readLiteral? (text : List Char) : Option (List Char × List Char) :=
  let inside := text.takeWhile (· != '\'')
  match text.dropWhile (· != '\'') with
  | _ :: rest => if inside.all isQuotable then some (inside, rest) else none
  | [] => none

/-- A string of any kind. -/
def readString? : List Char → Option (List Char × List Char)
  | '"' :: '"' :: '"' :: rest => readLong? rest
  | '"' :: rest => readQuoted? rest
  | '\'' :: '\'' :: '\'' :: rest => readLongLiteral? rest
  | '\'' :: rest => readLiteral? rest
  | _ => none

/-! ### Numbers -/

/-- Digits, in which single underscores may stand between two of them, and what follows. -/
def digitRun (isDigit : Char → Bool) : List Char → List Char × List Char
  | [] => ([], [])
  | c :: rest =>
      if isDigit c then
        let (ds, rest) := digitRun isDigit rest
        (c :: ds, rest)
      else
        match rest with
        | d :: rest' =>
            if c = '_' ∧ isDigit d then
              let (ds, rest) := digitRun isDigit rest'
              (d :: ds, rest)
            else ([], c :: rest)
        | [] => ([], [c])

/-- One digit or more, of which the first stands at the front. -/
def digitRun? (isDigit : Char → Bool) : List Char → Option (List Char × List Char)
  | [] => none
  | c :: rest => if isDigit c then some (digitRun isDigit (c :: rest)) else none

/-- A sign, `true` for minus, and what follows. -/
def readSign : List Char → Bool × List Char
  | '-' :: rest => (true, rest)
  | '+' :: rest => (false, rest)
  | text => (false, text)

/-- The digits of a decimal number: no zero leads others. -/
def readDecimal? (text : List Char) : Option (List Char × List Char) :=
  match text with
  | '0' :: rest => some (['0'], rest)
  | _ => digitRun? isAsciiDigit text

/-- The value of digits in a base. -/
def valueIn (base : Nat) (digits : List Char) : Nat :=
  digits.foldl (fun n c => base * n + (hexValue? c).getD 0) 0

/-- An integer of 63 bits and a sign. -/
def boundedInteger? (negative : Bool) (n : Nat) : Option SettingValue :=
  if negative then (if n ≤ signedWordBound then some (.integer (-(n : Int))) else none)
  else if n < signedWordBound then some (.integer n)
  else none

def isBelow (base : Nat) (c : Char) : Bool := (hexValue? c).any (· < base)

/-- An integer in a base, behind its mark. -/
def readBased? (base : Nat) (text : List Char) : Option (SettingValue × List Char) := do
  let (digits, rest) ← digitRun? (isBelow base) text
  let v ← boundedInteger? false (valueIn base digits)
  some (v, rest)

def readInteger? (text : List Char) : Option (SettingValue × List Char) :=
  match text with
  | '0' :: 'x' :: rest => readBased? 16 rest
  | '0' :: 'o' :: rest => readBased? 8 rest
  | '0' :: 'b' :: rest => readBased? 2 rest
  | _ => do
      let (negative, unsigned) := readSign text
      let (digits, rest) ← readDecimal? unsigned
      let v ← boundedInteger? negative (valueIn 10 digits)
      some (v, rest)

/-- `digits · 10 ^ e` is too large for double precision. -/
def isHuge (digits : List Char) (e : Int) : Bool :=
  let significant := digits.dropWhile (· == '0')
  let size : Int := significant.length + e
  if significant.isEmpty || size < -400 then false
  else if 400 < size then true
  else
    let n := valueIn 10 significant
    (Binary64.ofRatio? (n * Nat.pow 10 e.toNat) (Nat.pow 10 (-e).toNat)).isNone

/-- An exponent: its value and what follows. -/
def readPower? : List Char → Option (Int × List Char)
  | [] => none
  | c :: rest =>
      if c = 'e' ∨ c = 'E' then
        let (negative, unsigned) := readSign rest
        (digitRun? isAsciiDigit unsigned).map fun (digits, rest) =>
          (if negative then -(valueIn 10 digits : Int) else valueIn 10 digits, rest)
      else none

/-- A number with a point, an exponent or both. One that is too large is refused, unless it is
negative. -/
def readReal? (text : List Char) : Option (SettingValue × List Char) := do
  let (negative, unsigned) := readSign text
  let (whole, rest) ← readDecimal? unsigned
  let (fraction, e, rest) ← (match rest with
    | '.' :: rest =>
        (digitRun? isAsciiDigit rest).map fun (fraction, rest) =>
          match readPower? rest with
          | some (e, rest) => (fraction, e, rest)
          | none => (fraction, (0 : Int), rest)
    | _ => (readPower? rest).map fun (e, rest) => ([], e, rest))
  if !negative && isHuge (whole ++ fraction) (e - fraction.length) then none
  else some (.other, rest)

/-- Infinity or a value that is no number, with or without a sign. -/
def readSpecial? (text : List Char) : Option (SettingValue × List Char) :=
  match (readSign text).2 with
  | 'i' :: 'n' :: 'f' :: rest => some (.other, rest)
  | 'n' :: 'a' :: 'n' :: rest => some (.other, rest)
  | _ => none

/-! ### Dates and times -/

/-- Two digits whose value lies between two bounds. -/
def readTwoDigits? (low high : Nat) : List Char → Option (Nat × List Char)
  | a :: b :: rest => do
      let n ← number? [a, b]
      if low ≤ n ∧ n ≤ high then some (n, rest) else none
  | _ => none

/-- A character and what follows it. -/
def readMark? (mark : Char) : List Char → Option (List Char)
  | [] => none
  | c :: rest => if c = mark then some rest else none

def readDate? (text : List Char) : Option (List Char) := do
  let year ← (if (text.take 4).length = 4 then number? (text.take 4) else none)
  let rest ← readMark? '-' (text.drop 4)
  let (month, rest) ← readTwoDigits? 1 12 rest
  let rest ← readMark? '-' rest
  let (_, rest) ← readTwoDigits? 1 (daysInMonth year month) rest
  some rest

/-- A point and digits behind it, or nothing. -/
def skipFraction : List Char → List Char
  | '.' :: rest =>
      if (rest.takeWhile isAsciiDigit).isEmpty then '.' :: rest else rest.dropWhile isAsciiDigit
  | text => text

def readTime? (text : List Char) : Option (List Char) := do
  let (_, rest) ← readTwoDigits? 0 23 text
  let rest ← readMark? ':' rest
  let (_, rest) ← readTwoDigits? 0 59 rest
  let rest ← readMark? ':' rest
  let (_, rest) ← readTwoDigits? 0 60 rest
  some (skipFraction rest)

/-- The distance from universal time, or nothing. -/
def skipOffset (text : List Char) : List Char :=
  match text with
  | [] => []
  | c :: rest =>
      if c = 'Z' ∨ c = 'z' then rest
      else if c = '+' ∨ c = '-' then
        (do
          let (_, rest) ← readTwoDigits? 0 23 rest
          let rest ← readMark? ':' rest
          let (_, rest) ← readTwoDigits? 0 59 rest
          some rest).getD text
      else text

/-- A date, a time, or both with `T` or a blank between them. -/
def readDateTime? (text : List Char) : Option (SettingValue × List Char) :=
  match readDate? text with
  | some rest =>
      match rest with
      | c :: more =>
          if c = 'T' ∨ c = 't' ∨ c = ' ' then
            match readTime? more with
            | some rest => some (.other, skipOffset rest)
            | none => some (.other, rest)
          else some (.other, rest)
      | [] => some (.other, [])
  | none => (readTime? text).map fun rest => (.other, rest)

/-! ### Scalars -/

/-- A scalar of any kind. -/
def readScalar? (text : List Char) : Option (SettingValue × List Char) :=
  match text with
  | 't' :: 'r' :: 'u' :: 'e' :: rest => some (.other, rest)
  | 'f' :: 'a' :: 'l' :: 's' :: 'e' :: rest => some (.other, rest)
  | [] => none
  | c :: _ =>
      if c = '"' ∨ c = '\'' then
        (readString? text).map fun (s, rest) => (.text (String.ofList s), rest)
      else
        (readDateTime? text).or ((readReal? text).or ((readSpecial? text).or (readInteger? text)))

end Enquiry.Toml
