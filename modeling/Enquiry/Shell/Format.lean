import Enquiry.Host.Octets
import Enquiry.Number.Extended
import Enquiry.Text.Search

/-!
# Formatted output

`echoed` is the line of some arguments. `formatted` fills a format with arguments: it is used again
as long as there are arguments, and a missing argument is empty or zero. In both a backslash stands
for a control character or, with octal digits, for a byte.
-/

namespace Enquiry.Shell

open Host Text Number

/-! ### Escapes -/

/-- The character of a letter behind a backslash. -/
def escapedLetter? (c : Char) : Option Char :=
  [('\\', '\\'), ('a', '\x07'), ('b', '\x08'), ('e', '\x1B'), ('f', '\x0C'), ('n', '\n'),
    ('r', '\r'), ('t', '\t'), ('v', '\x0B')].lookup c

/-- The byte that octal digits name. -/
def octalChar (digits : Octets) : Char := Char.ofNat (digitsValue 8 digits % 256)

/-- The character behind a backslash, and what follows it. A backslash in front of anything else
stands for itself. -/
def escape (rest : Octets) : Char × Octets :=
  match rest with
  | [] => ('\\', [])
  | c :: more =>
      if isDigitOf 8 c then
        let digits := (rest.take 3).takeWhile (isDigitOf 8)
        (octalChar digits, rest.drop digits.length)
      else match escapedLetter? c with
        | some d => (d, more)
        | none => ('\\', rest)

/-- The rest behind a zero in front of octal digits. -/
def dropOctalMark : Octets → Octets
  | '0' :: d :: rest => if isDigitOf 8 d then d :: rest else '0' :: d :: rest
  | text => text

/-- A text with its escapes resolved, behind what has been resolved, the latest first; `true` when
a `\c` ends all output. The first argument bounds the number of characters. -/
def unescapeOnto : Nat → Octets → Octets → Octets × Bool
  | 0, found, _ => (found.reverse, false)
  | _, found, [] => (found.reverse, false)
  | _, found, '\\' :: 'c' :: _ => (found.reverse, true)
  | n + 1, found, '\\' :: rest =>
      let (c, rest) := escape (dropOctalMark rest)
      unescapeOnto n (c :: found) rest
  | n + 1, found, c :: rest => unescapeOnto n (c :: found) rest

/-- A text with its escapes resolved; `true` when a `\c` ends all output. -/
def unescape (text : Octets) : Octets × Bool :=
  if text.contains '\\' then unescapeOnto (text.length + 1) [] text else (text, false)

/-- The line of some arguments, without its end behind `-n`. -/
def echoed (args : List Octets) : Octets :=
  let (bare, args) := match args with
    | ['-', 'n'] :: rest => (true, rest)
    | args => (false, args)
  let (text, ends) := unescape (List.intercalate [' '] args)
  if bare || ends then text else text ++ ['\n']

/-- The options of the line in the richer dialect: is the end left out, and are escapes resolved? -/
def richOptions : List Octets → Bool × Bool → Bool × Bool × List Octets
  | ('-' :: c :: letters) :: rest, (bare, resolves) =>
      let all := c :: letters
      if all.all fun c => c == 'n' || c == 'e' || c == 'E' then
        let last := all.reverse.find? fun c => c == 'e' || c == 'E'
        richOptions rest (bare || all.contains 'n', (last.map (· == 'e')).getD resolves)
      else (bare, resolves, ('-' :: all) :: rest)
  | args, (bare, resolves) => (bare, resolves, args)

/-- The line of some arguments in the richer dialect, which resolves escapes only behind `-e`. -/
def richlyEchoed (args : List Octets) : Octets :=
  let (bare, resolves, args) := richOptions args (false, false)
  let text := List.intercalate [' '] args
  let (text, ends) := if resolves then unescape text else (text, false)
  if bare || ends then text else text ++ ['\n']

/-! ### Formats -/

/-- A place of a format behind its percent sign. -/
structure Place where
  layout : Layout
  /-- The width and the precision are arguments. -/
  widthGiven : Bool
  precisionGiven : Bool
  letter : Option Char
  /-- The place as it is written. -/
  written : Octets
  rest : Octets

/-- Digits, or a star for an argument, and what follows them. -/
def readSize (text : Octets) : Option Nat × Bool × Octets :=
  match text with
  | '*' :: rest => (none, true, rest)
  | text =>
      let digits := text.takeWhile isAsciiDigit
      (number? digits, false, text.drop digits.length)

/-- Reads a place behind its percent sign. -/
def readPlace (text : Octets) : Place :=
  let flags := text.takeWhile Layout.isFlag
  let layout := flags.foldl Layout.withFlag .plain
  let (width, widthGiven, rest) := readSize (text.drop flags.length)
  let layout := { layout with width := width.getD 0 }
  let (layout, precisionGiven, rest) := match rest with
    | '.' :: rest =>
        let (precision, given, rest) := readSize rest
        ({ layout with precision := some (precision.getD 0) }, given, rest)
    | rest => (layout, false, rest)
  let size := text.length - rest.length
  ⟨layout, widthGiven, precisionGiven, rest.head?, '%' :: text.take (size + 1), rest.drop 1⟩

/-- What has been made of a format. -/
structure Filling where
  /-- What is written, the latest first. -/
  output : List Octets
  args : List Octets
  /-- What is complained about, the latest first. -/
  complaints : List Octets
  /-- Why the format cannot be filled on. -/
  fault : Option Octets
  /-- Nothing more is written. -/
  ended : Bool

namespace Filling

def write (f : Filling) (text : Octets) : Filling := { f with output := text :: f.output }

/-- The next argument. -/
def take (f : Filling) : Option Octets × Filling :=
  match f.args with
  | [] => (none, f)
  | a :: rest => (some a, { f with args := rest })

def complain (f : Filling) (text : Octets) : Filling :=
  { f with complaints := text :: f.complaints }

/-- Complains about an argument that is not all a number. -/
def check (f : Filling) (arg : Octets) (found : Bool) (rest : Octets) (overflows : Bool) :
    Filling :=
  if !found && !arg.isEmpty then f.complain (arg ++ ": expected numeric value".toList)
  else if !rest.isEmpty then f.complain (arg ++ ": not completely converted".toList)
  else if overflows then f.complain (arg ++ ": Numerical result out of range".toList)
  else f

/-- The character whose code an argument asks for by a quote in front of it. -/
def quoted? : Octets → Option Nat
  | '"' :: rest => some ((rest.head?.map Char.toNat).getD 0)
  | '\'' :: rest => some ((rest.head?.map Char.toNat).getD 0)
  | _ => none

/-- The next argument as a whole number. -/
def takeInteger (f : Filling) (isSigned : Bool) : Int × Filling :=
  match f.take with
  | (none, f) => (0, f)
  | (some arg, f) =>
      match quoted? arg with
      | some n => (n, f)
      | none =>
          match Integer.read? none arg with
          | none => (0, f.check arg false arg false)
          | some i =>
              if isSigned then (i.value, f.check arg true i.rest i.overflows)
              else
                let digits := arg.dropWhile isGap
                let sign := digits.take 1
                let (base, digits) := splitBase none
                  (if sign = ['-'] ∨ sign = ['+'] then digits.drop 1 else digits)
                let n := digitsValue base (digits.takeWhile (isDigitOf base))
                let overflows := decide (Number.wordBound ≤ n)
                let n : Nat := if overflows then Number.wordBound - 1 else n
                let value : Int := if sign = ['-'] ∧ !overflows then -n else n
                (value % Number.wordBound, f.check arg true i.rest overflows)

/-- The next argument as a number with places behind the point. -/
def takeReal (f : Filling) : Extended × Filling :=
  match f.take with
  | (none, f) => (.zero, f)
  | (some arg, f) =>
      match quoted? arg with
      | some n => (.ofRatio false n 1, f)
      | none =>
          match Extended.read? arg with
          | none => (.zero, f.check arg false arg false)
          | some (x, rest) => (x, f.check arg true rest false)

/-- Fills a place. -/
def place (f : Filling) (p : Place) : Filling :=
  let (l, f) :=
    if p.widthGiven then
      let (n, f) := f.takeInteger true
      (p.layout.withWidth n, f)
    else (p.layout, f)
  let (l, f) :=
    if p.precisionGiven then
      let (n, f) := f.takeInteger true
      (l.withPrecision n, f)
    else (l, f)
  match p.letter with
  | none => { f with fault := some "missing format character".toList }
  | some c =>
      if c = 's' then
        let (arg, f) := f.take
        f.write (l.text (arg.getD []))
      else if c = 'b' then
        let (arg, f) := f.take
        let (text, ends) := unescape (arg.getD [])
        { f.write (l.text text) with ended := ends }
      else if c = 'c' then
        let (arg, f) := f.take
        f.write (l.pad [((arg.getD []).head?).getD '\x00'])
      else if c = 'd' ∨ c = 'i' then
        let (n, f) := f.takeInteger true
        f.write (l.integer n)
      else if "ouxX".toList.contains c then
        let (n, f) := f.takeInteger false
        f.write (l.natural c n.toNat)
      else if "eEfFgG".toList.contains c then
        let (x, f) := f.takeReal
        f.write (Extended.layOut l c x)
      else { f with fault := some (p.written ++ ": invalid directive".toList) }

def isOver (f : Filling) : Bool := f.ended || f.fault.isSome

/-- One pass through a format. The first argument bounds the number of its characters. -/
def pass : Nat → Octets → Filling → Filling
  | 0, _, f => f
  | _, [], f => f
  | n + 1, '\\' :: rest, f =>
      let (c, rest) := escape rest
      pass n rest (f.write [c])
  | n + 1, '%' :: '%' :: rest, f => pass n rest (f.write ['%'])
  | n + 1, '%' :: rest, f =>
      let p := readPlace rest
      let f := f.place p
      if f.isOver then f else pass n p.rest f
  | n + 1, c :: rest, f =>
      let plain := (c :: rest).takeWhile fun c => c != '%' && c != '\\'
      pass n ((c :: rest).drop plain.length) (f.write plain)

/-- The passes through a format until its arguments are used up. The first argument bounds their
number. -/
def passes (format : Octets) : Nat → Filling → Filling
  | 0, f => f
  | n + 1, f =>
      let after := pass (format.length + 1) format f
      if after.isOver || after.args.isEmpty || after.args.length == f.args.length then after
      else passes format n after

/-- All that is written. -/
def text (f : Filling) : Octets := f.output.reverse.flatten

end Filling

/-- A format filled with arguments. -/
def formatted (format : Octets) (args : List Octets) : Filling :=
  Filling.passes format (args.length + 1) ⟨[], args, [], none, false⟩

end Enquiry.Shell
