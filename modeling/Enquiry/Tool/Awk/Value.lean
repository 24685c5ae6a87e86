import Enquiry.Number.Extended
import Enquiry.Tool.Awk.Rule

/-!
# Values of the record processor

A value is a number or a text. What has been read is a text that counts as a number when it looks
like one, and a variable that has not been set is both.
-/

namespace Enquiry.Tool.Awk

open Host Number Text

inductive Value where
  | unset
  | number (x : Float)
  | text (t : Octets)
  /-- A text that has been read. -/
  | input (t : Octets)
  deriving Inhabited

/-! ### Numbers -/

/-- The number that a text begins with. -/
def numberOfText (t : Octets) : Float :=
  match t with
  | [] => 0
  | t =>
      match Extended.read? t with
      | some (x, _) => x.toFloat
      | none => 0

/-- A text that is a number, with blanks around it. -/
def looksNumeric (t : Octets) : Bool :=
  match Extended.read? t with
  | some (_, rest) => rest.all isGap
  | none => false

/-- The whole part of a number, if it is finite. -/
def whole? (x : Float) : Option Int :=
  match Extended.ofFloat x with
  | .finite b =>
      let (num, den) := b.ratio
      let n : Int := num / den
      some (if b.negative then -n else n)
  | _ => none

def ofInt (n : Int) : Float := Float.ofInt n

/-- A whole number, if it is one of some size. -/
def exactly? (x : Float) : Option Int :=
  match Extended.ofFloat x with
  | .finite b =>
      let (num, den) := b.ratio
      if num % den = 0 then
        let n : Int := num / den
        some (if b.negative then -n else n)
      else none
  | _ => none

/-- The remainder of a division, with the sign of the first number. -/
def remainder (x y : Float) : Float :=
  match Extended.ofFloat x, Extended.ofFloat y with
  | .finite a, .finite b =>
      let (p, q) := a.ratio
      let (r, s) := b.ratio
      if r = 0 then 0.0 / 0.0
      else (Extended.ofRatio a.negative (p * s % (r * q)) (q * s)).toFloat
  | .finite _, .infinite _ => x
  | _, _ => 0.0 / 0.0

/-- A number that is not below zero to a power, or any number to a whole power. -/
def powerOf (x y : Float) : Float :=
  match exactly? y with
  | some n =>
      if n.natAbs ≤ 1024 then
        let p := (List.replicate n.natAbs x).foldl (· * ·) 1
        if n < 0 then 1 / p else p
      else Float.pow x y
  | none => Float.pow x y

/-- The bounds of whole numbers that are written with all their digits. -/
def wholeBound : Int := 9223372036854775808

/-- The whole number that is written for a number, which has to lie in some bounds. -/
def bounded (x : Float) : Int :=
  match whole? x with
  | some n =>
      if 2 * wholeBound ≤ n then 2 * wholeBound - 1
      else if n ≤ -wholeBound then -wholeBound + 1
      else n
  | none => if x < 0 then -wholeBound + 1 else if x > 0 then 2 * wholeBound - 1 else -wholeBound

/-- The whole number that a number is written as, if it is. -/
def digits? (x : Float) : Option Int :=
  match exactly? x with
  | some n =>
      if -wholeBound ≤ n ∧ n < 2 * wholeBound then some n
      else if n = 2 * wholeBound then some (n - 1)
      else none
  | none => none

/-! ### Formats -/

/-- What a format asks to be written. -/
inductive Piece where
  | text (t : Octets)
  /-- A value by a letter; the width and the precision may be values too. -/
  | value (layout : Layout) (width precision : Bool) (letter : Char)

/-- A value of a format behind its percent sign, and what follows it. -/
def readPiece (text : Octets) : Option (Piece × Octets) :=
  let flags := text.takeWhile Layout.isFlag
  let layout := flags.foldl Layout.withFlag Layout.plain
  let text := text.drop flags.length
  let digits := text.takeWhile isAsciiDigit
  let (layout, width, text) := match text with
    | '*' :: rest => (layout, true, rest)
    | text => (layout.withWidth (digitsValue 10 digits), false, text.drop digits.length)
  let (layout, precision, text) := match text with
    | '.' :: '*' :: rest => (layout, true, rest)
    | '.' :: rest =>
        let digits := rest.takeWhile isAsciiDigit
        (layout.withPrecision (digitsValue 10 digits), false, rest.drop digits.length)
    | text => (layout, false, text)
  let text := text.dropWhile fun c => c == 'l' || c == 'h'
  match text with
  | c :: rest =>
      if "diouxXeEfFgGcs".toList.contains c then some (.value layout width precision c, rest)
      else none
  | [] => none

/-- The pieces of a format. The first argument bounds their number. -/
def piecesOf : Nat → Octets → List Piece
  | 0, _ => []
  | n + 1, text =>
      let front := text.takeWhile (· != '%')
      match text.drop front.length with
      | [] => if front.isEmpty then [] else [.text front]
      | _ :: '%' :: rest => .text (front ++ ['%']) :: piecesOf n rest
      | _ :: rest =>
          match readPiece rest with
          | some (p, rest) => .text front :: p :: piecesOf n rest
          | none => .text (front ++ ['%']) :: piecesOf n rest

/-- A number as a letter says. -/
def formatNumber (l : Layout) (letter : Char) (x : Float) : Octets :=
  if letter = 'd' ∨ letter = 'i' then l.integer (bounded x)
  else if "ouxX".toList.contains letter then
    let n := bounded x
    l.natural letter (if n < 0 then n + 2 * wholeBound else n).toNat
  else Extended.layOut l letter (Extended.ofFloat x)

/-- The text of a number, where a format says how a number that is not whole is written. -/
def numberText (format : Octets) (x : Float) : Octets :=
  match digits? x with
  | some n => Host.signed n
  | none =>
      let value (l : Layout) (c : Char) : Octets :=
        match Extended.ofFloat x with
        | .undefined _ => l.pad "-nan".toList
        | _ => formatNumber l c x
      (piecesOf (format.length + 1) format).flatMap fun p =>
        match p with
        | .text t => t
        | .value l _ _ c => if c = 's' ∨ c = 'c' then [] else value l c

namespace Value

/-- The number that a value is. -/
def toNumber : Value → Float
  | unset => 0
  | number x => x
  | text t => numberOfText t
  | input t => numberOfText t

/-- The text that a value is. -/
def toText (format : Octets) : Value → Octets
  | unset => []
  | number x => numberText format x
  | text t => t
  | input t => t

/-- The value stands for something true. -/
def holds : Value → Bool
  | unset => false
  | number x => x != 0
  | text t => !t.isEmpty
  | input t => if looksNumeric t then numberOfText t != 0 else !t.isEmpty

/-- The number that a value counts as when values are compared. -/
def comparable? : Value → Option Float
  | unset => some 0
  | number x => some x
  | text _ => none
  | input t => if looksNumeric t then some (numberOfText t) else none

/-- Compares two values, as numbers if they are. -/
def compare (format : Octets) (c : Comparison) (a b : Value) : Bool :=
  match a.comparable?, b.comparable? with
  | some x, some y =>
      match c with
      | .less => x < y
      | .atMost => x ≤ y
      | .same => x == y
      | .different => x != y
      | .more => y < x
      | .atLeast => y ≤ x
  | _, _ =>
      let x := a.toText format
      let y := b.toText format
      match c with
      | .less => decide (x < y)
      | .atMost => !decide (y < x)
      | .same => x == y
      | .different => x != y
      | .more => decide (y < x)
      | .atLeast => !decide (x < y)

def ofBool (b : Bool) : Value := .number (if b then 1 else 0)

end Value

/-- Values as a format says; there may be too few of them. The second part of the answer is what has
been written then. -/
def formatted (conversion : Octets) : List Piece → List Value → List Octets → Bool × Octets
  | [], _, found => (true, found.reverse.flatten)
  | .text t :: rest, values, found => formatted conversion rest values (t :: found)
  | .value l width precision letter :: rest, values, found =>
      let missing := (false, found.reverse.flatten)
      let take (wanted : Bool) (l : Layout) (set : Layout → Int → Layout) (values : List Value) :
          Option (Layout × List Value) :=
        if !wanted then some (l, values)
        else match values with
          | v :: values => some (set l ((whole? v.toNumber).getD 0), values)
          | [] => none
      match (take width l Layout.withWidth values).bind fun (l, values) =>
          take precision l Layout.withPrecision values with
      | none => missing
      | some (_, []) => missing
      | some (l, v :: values) =>
          let written :=
            if letter = 's' then l.text (v.toText conversion)
            else if letter = 'c' then
              match v with
              | .number x => l.pad [Char.ofNat ((bounded x) % 256).toNat]
              | v => l.pad [((v.toText conversion).head?).getD '\x00']
            else formatNumber l letter v.toNumber
          formatted conversion rest values (written :: found)

end Enquiry.Tool.Awk
