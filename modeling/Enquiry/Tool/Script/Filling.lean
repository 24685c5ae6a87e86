import Enquiry.Number.Extended
import Enquiry.Tool.Script.Likeness

/-!
# Layout of values in texts

Two ways to say how a value is written: a specification, which can stand behind a colon, and the
places of a format behind percent signs.
-/

namespace Enquiry.Tool.Script

open Host Text Number

/-- How a value is laid out. -/
structure Specification where
  fill : Char
  /-- On which side the value stands. -/
  side : Option Char
  sign : Char
  alternate : Bool
  width : Nat
  grouping : Option Char
  precision : Option Nat
  kind : Option Char

namespace Specification

def isSide (c : Char) : Bool := c == '<' || c == '>' || c == '^' || c == '='

/-- Reads a specification; nothing if it is none. -/
def read? (text : List Char) : Option Specification :=
  let (fill, side, text) := match text with
    | f :: c :: rest =>
        if isSide c then (f, some c, rest)
        else if isSide f then (' ', some f, c :: rest)
        else (' ', none, f :: c :: rest)
    | [c] => if isSide c then (' ', some c, []) else (' ', none, [c])
    | [] => (' ', none, [])
  let (sign, text) := match text with
    | c :: rest => if c = '+' ∨ c = '-' ∨ c = ' ' then (c, rest) else ('-', text)
    | [] => ('-', [])
  let (alternate, text) := match text with
    | '#' :: rest => (true, rest)
    | text => (false, text)
  let (fill, side, text) := match text, side with
    | '0' :: rest, none => ('0', some '=', rest)
    | '0' :: rest, side => (fill, side, rest)
    | text, side => (fill, side, text)
  let width := text.takeWhile isAsciiDigit
  let text := text.drop width.length
  let (grouping, text) := match text with
    | c :: rest => if c = ',' ∨ c = '_' then (some c, rest) else (none, text)
    | [] => (none, [])
  let (precision, text) := match text with
    | '.' :: rest =>
        let digits := rest.takeWhile isAsciiDigit
        (number? digits, rest.drop digits.length)
    | text => (none, text)
  let spec (kind : Option Char) : Specification :=
    ⟨fill, side, sign, alternate, (number? width).getD 0, grouping, precision, kind⟩
  match text with
  | [] => some (spec none)
  | [c] => some (spec (some c))
  | _ => none

/-- Fills the field around what is written: the sign and the rest. -/
def pad (s : Specification) (usual : Char) (front body : List Char) : List Char :=
  let missing := s.width - front.length - body.length
  let fill (n : Nat) : List Char := List.replicate n s.fill
  let side := s.side.getD usual
  if side = '<' then front ++ body ++ fill missing
  else if side = '^' then fill (missing / 2) ++ front ++ body ++ fill (missing - missing / 2)
  else if side = '=' then front ++ fill missing ++ body
  else fill missing ++ front ++ body

/-- The sign of a number. -/
def signOf (s : Specification) (negative : Bool) : List Char :=
  if negative then ['-'] else if s.sign = '-' then [] else [s.sign]

/-- Digits with a mark between groups. -/
def grouped (mark : Char) (size : Nat) (digits : List Char) : List Char :=
  let rec go (n : Nat) : List Char → List Char
    | [] => []
    | d :: rest => if n = size then mark :: d :: go 1 rest else d :: go (n + 1) rest
  (go 0 digits.reverse).reverse

/-- The digits in front of the point with a mark between groups. -/
def groupedBefore (s : Specification) (size : Nat) (text : List Char) : List Char :=
  match s.grouping with
  | none => text
  | some mark =>
      let digits := text.takeWhile fun c => isDigitOf 16 c
      grouped mark size digits ++ text.drop digits.length

/-- A number of double precision; nothing when the letter does not fit. -/
def real? (s : Specification) (x : Float) : Option (List Char) :=
  let kind := s.kind.getD 'r'
  let letter := kind.toLower
  let ext := Extended.ofFloat x
  let negative := match ext with
    | .finite y => y.negative
    | .infinite n => n
    | .undefined _ => false
  let body? : Option (List Char) := match ext with
    | .infinite _ => some "inf".toList
    | .undefined _ => some "nan".toList
    | .finite y =>
        let (num, den) := y.ratio
        let places := s.precision.getD 6
        if letter = 'f' then some (Extended.fixedDigits s.alternate places num den)
        else if letter = 'e' then some (Extended.scientificDigits s.alternate places num den)
        else if letter = 'g' ∨ letter = 'n' then
          some (Extended.generalDigits s.alternate places num den)
        else if kind = '%' then some (Extended.fixedDigits s.alternate places (num * 100) den ++ ['%'])
        else if kind = 'r' then
          match s.precision with
          | none => some (realText (if negative then -x else x))
          | some p =>
              let text := Extended.generalDigits s.alternate p num den
              if text.contains '.' || text.contains 'e' then some text
              else
                let (_, e) := Extended.leadingDigits (max p 1 - 1) num den
                if (e : Int) < p - 1 then some (text ++ ".0".toList)
                else some (Extended.scientificDigits false (max p 1 - 1) num den)
        else none
  body?.map fun body =>
    let body := if kind.isUpper then body.map Char.toUpper else body
    s.pad '>' (s.signOf negative) (s.groupedBefore 3 body)

/-- A whole number; nothing when the letter does not fit. -/
def whole? (s : Specification) (n : Int) : Option (List Char) :=
  let kind := s.kind.getD 'd'
  let based (base : Nat) (mark : List Char) (size : Nat) : List Char :=
    let digits := Nat.toDigits base n.natAbs
    let digits := if kind = 'X' then digits.map Char.toUpper else digits
    s.pad '>' (s.signOf (n < 0) ++ (if s.alternate then mark else [])) (s.groupedBefore size digits)
  if kind = 'd' ∨ kind = 'n' then some (based 10 [] 3)
  else if kind = 'x' then some (based 16 ['0', 'x'] 4)
  else if kind = 'X' then some (based 16 ['0', 'X'] 4)
  else if kind = 'o' then some (based 8 ['0', 'o'] 4)
  else if kind = 'b' then some (based 2 ['0', 'b'] 4)
  else if kind = 'c' then some (s.pad '<' [] [Char.ofNat n.toNat])
  else if "eEfFgG%".toList.contains kind then s.real? (realOf n)
  else none

/-- A text; nothing when the letter does not fit. -/
def text? (s : Specification) (t : List Char) : Option (List Char) :=
  if s.kind.getD 's' ≠ 's' then none
  else some (s.pad '<' [] (match s.precision with
    | some p => t.take p
    | none => t))

end Specification

namespace Running

section

variable (apply : Apply)

/-- A value as a specification says. -/
def laidOut (v : Value) (spec : List Char) : Running (List Char) := do
  match ← ownMethod? v "__format__" with
  | some f => return ← textOf apply (← apply f [.text spec] [])
  | none => pure ()
  if spec.isEmpty then return ← textOf apply v
  let unknown (s : Specification) : Running (List Char) := do
    raise "ValueError" ("Unknown format code '".toList ++ [s.kind.getD ' '] ++
      "' for object of type '".toList ++ (← kindNameOf v) ++ ['\''])
  match Specification.read? spec with
  | none =>
      raise "ValueError" ("Invalid format specifier '".toList ++ spec ++ "' for object of type '".toList ++
        (← kindNameOf v) ++ ['\''])
  | some s =>
      let found := match v with
        | .whole n => s.whole? n
        | .bool b =>
            if s.kind.isNone then s.text? (if b then "True" else "False").toList
            else s.whole? (if b then 1 else 0)
        | .real x => s.real? x
        | .text t => s.text? t
        | _ => none
      match found, v with
      | some t, _ => return t
      | none, .whole _ | none, .bool _ | none, .real _ | none, .text _ => unknown s
      | none, _ =>
          raise "TypeError" ("unsupported format string passed to ".toList ++ (← kindNameOf v) ++
            ".__format__".toList)

/-- A value as a letter behind an exclamation mark says. -/
def converted (v : Value) (letter : Option Char) : Running Value := do
  match letter with
  | some 'r' => return .text (← shown apply v)
  | some 's' => return .text (← textOf apply v)
  | some 'a' =>
      return .text ((← shown apply v).flatMap fun c => if c.toNat < 0x80 then [c] else shownChar '\x00' true c)
  | _ => return v

/-! ### Percent signs -/

/-- A number that a place asks for. -/
def numberFor (letter : Char) (v : Value) : Running Quantity := do
  match quantity? v with
  | some q => return q
  | none =>
      if "diu".toList.contains letter then
        raise "TypeError" ('%' :: letter :: " format: a real number is required, not ".toList ++
          (← kindNameOf v))
      else if "xXo".toList.contains letter then
        raise "TypeError" ('%' :: letter :: " format: an integer is required, not ".toList ++
          (← kindNameOf v))
      else raise "TypeError" ("must be real number, not ".toList ++ (← kindNameOf v))

/-- A value as a letter behind a percent sign says. -/
def placed (l : Layout) (letter : Char) (v : Value) : Running (List Char) := do
  match letter with
  | 's' => return l.text (← textOf apply v)
  | 'r' => return l.text (← shown apply v)
  | 'a' => return l.text (← textOf apply (← converted apply v (some 'a')))
  | 'c' =>
      match v with
      | .text [c] => return l.pad [c]
      | .whole n => return l.pad [Char.ofNat n.toNat]
      | _ => raiseText "TypeError" "%c requires int or char"
  | letter =>
      if "diuxXo".toList.contains letter then
        let n ← match ← numberFor letter v with
          | .whole n => pure n
          | .real x => pure ((truncated? x).getD 0)
        if "diu".toList.contains letter then return l.integer n
        let mark := if letter = 'o' then ['0', 'o'] else ['0', letter]
        let digits := l.padDigits (Nat.toDigits (if letter = 'o' then 8 else 16) n.natAbs)
        let digits := if letter = 'X' then digits.map Char.toUpper else digits
        return l.number (l.zero && l.precision.isNone)
          (l.sign (n < 0) ++ (if l.alternate then mark else [])) digits
      else if "eEfFgG".toList.contains letter then
        return Extended.layOut l letter (Extended.ofFloat (← numberFor letter v).toReal)
      else
        raise "ValueError" ("unsupported format character '".toList ++ letter :: "' (0x".toList ++
          Nat.toDigits 16 letter.toNat ++ ")".toList)

/-- A width or a precision: digits, or a star for a value that is taken. -/
def sizeAt (text : List Char) (values : List Value) :
    Running (Option Int × List Char × List Value) := do
  match text, values with
  | '*' :: rest, .whole n :: values => return (some n, rest, values)
  | '*' :: _, _ => raiseText "TypeError" "* wants int"
  | text, values =>
      let digits := text.takeWhile isAsciiDigit
      return ((number? digits).map Int.ofNat, text.drop digits.length, values)

/-- A format with its places filled. The first argument bounds the number of characters; `find?`
looks a value up by its name. -/
def filledFrom (find? : Option (List Char → Running Value)) :
    Nat → List (List Char) → List Char → List Value → Running (List Char)
  | 0, done, _, _ => return done.reverse.flatten
  | n + 1, done, text, values => do
      let plain := text.takeWhile (· != '%')
      match text.drop plain.length with
      | [] =>
          if !values.isEmpty && find?.isNone then
            raiseText "TypeError" "not all arguments converted during string formatting"
          return (plain :: done).reverse.flatten
      | _ :: rest =>
          let done := plain :: done
          let (name?, rest) := match rest with
            | '(' :: rest =>
                let name := rest.takeWhile (· != ')')
                (some name, rest.drop (name.length + 1))
            | rest => (none, rest)
          let flags := rest.takeWhile Layout.isFlag
          let l := flags.foldl Layout.withFlag .plain
          let (width, rest, values) ← sizeAt (rest.drop flags.length) values
          let l := match width with
            | some k => l.withWidth k
            | none => l
          let (l, rest, values) ← match rest with
            | '.' :: rest => do
                let (precision, rest, values) ← sizeAt rest values
                pure (l.withPrecision (precision.getD 0), rest, values)
            | rest => pure (l, rest, values)
          let rest := rest.dropWhile fun c => c == 'l' || c == 'h' || c == 'L'
          match rest with
          | [] => raiseText "ValueError" "incomplete format"
          | '%' :: rest => filledFrom find? n (['%'] :: done) rest values
          | letter :: rest =>
              match name?, find? with
              | some name, some find =>
                  let v ← find name
                  filledFrom find? n ((← placed apply l letter v) :: done) rest values
              | some _, none => raiseText "TypeError" "format requires a mapping"
              | none, _ =>
                  match values with
                  | v :: values =>
                      filledFrom find? n ((← placed apply l letter v) :: done) rest values
                  | [] => raiseText "TypeError" "not enough arguments for format string"

/-- A format with its places filled by what stands behind the percent sign. -/
def filled (format : List Char) (v : Value) : Running (List Char) := do
  let isDict ← match v with
    | .object n =>
        match ← object n with
        | .dict d => pure (some d)
        | _ => pure none
    | _ => pure none
  let find? := isDict.map fun d => fun (name : List Char) => (do
    match d.get? [.text (String.ofList name)] with
    | some v => return v
    | none => raiseWith "KeyError" [.text name] : Running Value)
  let values := match v with
    | .tuple items => items
    | v => [v]
  filledFrom apply find? (format.length + 1) [] format values

end

end Running

end Enquiry.Tool.Script
